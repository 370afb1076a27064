import ArchModel.Proofs.Tag.Delimiters

/-!
# Dividing a docstring into blocks

Every line of a docstring has one place: it stands before the first head, or it belongs to the block
of the last head above it.

* `Docstring.HeadForm` is the form of a head, and `Docstring.head?_eq_some_iff` says that this is
  what is recognized.
* `Docstring.HeadAt`: a tag line is a head if there is an even number of delimiters between the
  first tag line and it.
* `Docstring.Splitter.Divided` holds while a docstring is divided: one line keeps it
  (`Divided.step`), so it holds of all lines (`divided_foldl`).
* **`Docstring.split_divided`**: where the blocks of a docstring begin, what they hold, and that
  comment and blocks make up all its lines.
-/

namespace ArchModel

open Text

namespace Docstring

/-! ## The form of a head -/

/-- The form of a head: an at-sign, a word as far as it goes, white space as far as it goes, and the
rest. -/
structure HeadForm (stripped name rest : String) : Prop where
  /-- The parts make up the line, and no word character follows the name. -/
  parts : ∃ gap, Blank gap ∧ stripped.toList = '@' :: (name.toList ++ (gap ++ rest.toList)) ∧
    ∀ c ∈ (gap ++ rest.toList).head?, isWord c = false
  name_ne : name ≠ ""
  word : ∀ c ∈ name.toList, isWord c = true
  start : ∀ c ∈ rest.toList.head?, isBlank c = false

theorem head?_eq_some_iff {stripped name rest : String} :
    head? stripped = some (name, rest) ↔ HeadForm stripped name rest := by
  constructor
  · intro h
    unfold head? at h
    split at h
    · next cs chars =>
      dsimp only at h
      split at h
      · cases h
      · next hne =>
        obtain ⟨rfl, rfl⟩ := Prod.mk.inj (Option.some.inj h)
        have behind (p : Char → Bool) (l : List Char) :
            ∀ c ∈ (l.dropWhile p).head?, p c = false := by
          intro c hc
          have := List.head?_dropWhile_not p l
          rw [hc] at this
          simpa using this
        refine ⟨⟨(cs.dropWhile isWord).takeWhile isBlank, ?_, ?_, ?_⟩, ?_, ?_, ?_⟩
        · exact fun c hc => List.mem_takeWhile_imp hc
        · rw [chars, String.toList_ofList, String.toList_ofList, stripStartChars,
            List.takeWhile_append_dropWhile, List.takeWhile_append_dropWhile]
        · rw [String.toList_ofList, stripStartChars, List.takeWhile_append_dropWhile]
          exact behind isWord cs
        · simpa [← String.toList_inj] using hne
        · rw [String.toList_ofList]
          exact fun c hc => List.mem_takeWhile_imp hc
        · rw [String.toList_ofList]
          exact behind isBlank _
    · cases h
  · rintro ⟨⟨gap, blank, whole, last⟩, hne, word, start⟩
    obtain ⟨taken, dropped⟩ := span_append word last
    have rest_eq : stripStartChars (gap ++ rest.toList) = rest.toList := by
      rw [stripStartChars_append_of_blank blank]
      exact (span_append (a := []) (by simp) start).2
    simp [head?, whole, taken, dropped, hne, rest_eq]

/-! ## Where heads stand -/

/-- Whether a line has the form of a head once it is trimmed. -/
def isTagLine (line : String) : Bool := (head? (strip line)).isSome

/-- The lines before the first tag line. -/
def freeLines (ls : List String) : List String := ls.takeWhile (!isTagLine ·)

/-- The lines from the first tag line on. -/
def taggedLines (ls : List String) : List String := ls.dropWhile (!isTagLine ·)

/-- The line at a position is a head: it has the form of one, and there is an even number of
delimiters on the lines from the first tag line up to it. -/
def HeadAt (ls : List String) (i : Nat) (name rest : String) : Prop :=
  ∃ line, ls[i]? = some line ∧ HeadForm (strip line) name rest ∧
    Even (delimiters ((taggedLines (ls.take i)).map strip))

variable {ls : List String} {line : String}

theorem isTagLine_iff : isTagLine line = true ↔ ∃ name rest, HeadForm (strip line) name rest := by
  rw [isTagLine, Option.isSome_iff_exists]
  simp only [Prod.exists, head?_eq_some_iff]

theorem delimiters_map_strip (ls : List String) : delimiters (ls.map strip) = delimiters ls := by
  induction ls with
  | nil => rfl
  | cons l ls ih => rw [List.map_cons, delimiters, delimiters, ih, countSeq_strip]

theorem freeLines_append_taggedLines (ls : List String) : freeLines ls ++ taggedLines ls = ls :=
  List.takeWhile_append_dropWhile

theorem taggedLines_eq_nil_iff : taggedLines ls = [] ↔ ∀ l ∈ ls, isTagLine l = false := by
  simp [taggedLines]

/-- Lines without a tag line are free, and a free line can only follow such ones. -/
theorem freeLines_concat (ls : List String) (line : String) :
    freeLines (ls ++ [line]) =
      if taggedLines ls = [] ∧ isTagLine line = false then ls ++ [line] else freeLines ls := by
  rw [freeLines, List.takeWhile_append]
  by_cases none : taggedLines ls = []
  · have all : freeLines ls = ls := by
      simpa [none] using freeLines_append_taggedLines ls
    rw [show ls.takeWhile (!isTagLine ·) = ls from all, if_pos rfl]
    by_cases tag : isTagLine line = true <;> simp [none, tag, all]
  · have short : (ls.takeWhile (!isTagLine ·)).length ≠ ls.length := by
      intro same
      have whole := congrArg List.length (freeLines_append_taggedLines ls)
      rw [List.length_append, freeLines, same] at whole
      exact none (List.length_eq_zero_iff.1 (by omega))
    rw [if_neg short, if_neg (fun h => none h.1)]
    rfl

theorem taggedLines_concat (ls : List String) (line : String) :
    taggedLines (ls ++ [line]) =
      if taggedLines ls = [] ∧ isTagLine line = false then [] else taggedLines ls ++ [line] := by
  rw [taggedLines, List.dropWhile_append]
  by_cases none : taggedLines ls = []
  · rw [show ls.dropWhile (!isTagLine ·) = [] from none]
    by_cases tag : isTagLine line = true <;> simp [none, tag]
  · have some : (ls.dropWhile (!isTagLine ·)).isEmpty = false := List.isEmpty_eq_false_iff.2 none
    rw [if_neg (by simp [some]), if_neg (fun h => none h.1)]
    rfl

theorem HeadAt.name_eq {i : Nat} {name name' rest rest' : String} (h : HeadAt ls i name rest)
    (h' : HeadAt ls i name' rest') : name = name' := by
  obtain ⟨line, at_i, form, -⟩ := h
  obtain ⟨line', at_i', form', -⟩ := h'
  obtain rfl : line' = line := by simpa [at_i] using at_i'.symm
  have same := head?_eq_some_iff.2 form
  rw [head?_eq_some_iff.2 form'] at same
  exact (Prod.mk.inj (Option.some.inj same)).1.symm

theorem lt_of_headAt {i : Nat} {name rest : String} (h : HeadAt ls i name rest) :
    i < ls.length := by
  obtain ⟨line, at_i, -⟩ := h
  exact (List.getElem?_eq_some_iff.1 at_i).1

/-- A further line leaves the heads above it as they are, and is one itself if it has the form and
no value is open. -/
theorem headAt_concat {i : Nat} {name rest : String} :
    HeadAt (ls ++ [line]) i name rest ↔ HeadAt ls i name rest ∨
      i = ls.length ∧ HeadForm (strip line) name rest ∧ Even (delimiters (taggedLines ls)) := by
  rcases Nat.lt_trichotomy i ls.length with before | rfl | behind
  · have apart : i ≠ ls.length := by omega
    simp only [HeadAt, List.getElem?_append_left before, List.take_append_of_le_length before.le,
      apart, false_and, or_false]
  · have none : ¬HeadAt ls ls.length name rest := fun h => Nat.lt_irrefl _ (lt_of_headAt h)
    rw [or_iff_right none]
    simp only [true_and, HeadAt, List.getElem?_concat_length,
      List.take_append_of_le_length (Nat.le_refl _), List.take_length, delimiters_map_strip,
      Option.some.injEq, exists_eq_left']
  · have none : ¬HeadAt (ls ++ [line]) i name rest := by
      intro h
      have := lt_of_headAt h
      simp at this
      omega
    have none' : ¬HeadAt ls i name rest := fun h => by
      have := lt_of_headAt h
      omega
    have apart : i ≠ ls.length := by omega
    simp only [none, none', apart, false_and, or_false]

/-! ## Where blocks stand -/

/-- A block stands in lines up to `stop`: its first line is the rest of its head, and the others are
the lines below the head as they are. -/
def StandsIn (ls : List String) (stop : Nat) (b : TagBlock) : Prop :=
  ∃ line rest, ls[b.offset]? = some line ∧ HeadForm (strip line) b.name rest ∧
    b.lines = rest :: (ls.take stop).drop (b.offset + 1)

/-- Blocks stand in lines up to `stop`, each of them up to the next one. -/
def StandIn (ls : List String) (stop : Nat) (bs : List TagBlock) : Prop :=
  ∀ before b after, bs = before ++ b :: after →
    StandsIn ls ((after.map (·.offset)).head?.getD stop) b

/-- The lines that a block takes up. -/
def linesOf (ls : List String) (b : TagBlock) : List String :=
  (ls[b.offset]?).toList ++ b.lines.tail

variable {stop : Nat} {b : TagBlock} {bs : List TagBlock}

theorem StandsIn.offset_lt (h : StandsIn ls stop b) : b.offset < ls.length := by
  obtain ⟨head, rest, at_offset, -⟩ := h
  exact (List.getElem?_eq_some_iff.1 at_offset).1

theorem StandsIn.concat (h : StandsIn ls stop b) (inside : stop ≤ ls.length) :
    StandsIn (ls ++ [line]) stop b := by
  have before := h.offset_lt
  obtain ⟨head, rest, at_offset, form, lines_eq⟩ := h
  refine ⟨head, rest, ?_, form, ?_⟩
  · rw [List.getElem?_append_left before, at_offset]
  · rw [lines_eq, List.take_append_of_le_length inside]

/-- A block that goes on up to the end of the lines goes on with a further line. -/
theorem StandsIn.goOn (h : StandsIn ls ls.length b) :
    StandsIn (ls ++ [line]) (ls ++ [line]).length { b with lines := b.lines ++ [line] } := by
  have before := h.offset_lt
  obtain ⟨head, rest, at_offset, form, lines_eq⟩ := h
  refine ⟨head, rest, ?_, form, ?_⟩
  · rw [List.getElem?_append_left before, at_offset]
  · have behind : b.offset + 1 ≤ ls.length := before
    rw [List.take_length, List.drop_append_of_le_length behind, lines_eq, List.take_length,
      List.cons_append]

theorem StandsIn.linesOf_goOn (h : StandsIn ls stop b) :
    linesOf (ls ++ [line]) { b with lines := b.lines ++ [line] } = linesOf ls b ++ [line] := by
  have before := h.offset_lt
  obtain ⟨head, rest, -, -, lines_eq⟩ := h
  simp [linesOf, List.getElem?_append_left before, lines_eq]

/-- The last block ends at the stop, and the one before it where the last one begins. -/
theorem standIn_concat_iff :
    StandIn ls stop (bs ++ [b]) ↔ StandIn ls b.offset bs ∧ StandsIn ls stop b := by
  constructor
  · intro h
    refine ⟨fun before c after split => ?_, h bs b [] rfl⟩
    have next := h before c (after ++ [b]) (by rw [split, List.append_assoc, List.cons_append])
    cases after with
    | nil => exact next
    | cons d after => exact next
  · rintro ⟨older, last⟩ before c after split
    rcases concat_eq_append_cons_iff.1 split with ⟨rfl, -, rfl⟩ | ⟨more, rfl, same⟩
    · exact last
    · have here := older before c more same
      cases more with
      | nil => exact here
      | cons e more => exact here

theorem StandIn.concat (h : StandIn ls stop bs) (inside : stop ≤ ls.length)
    (within : ∀ b ∈ bs, b.offset < ls.length) : StandIn (ls ++ [line]) stop bs := by
  intro before b after split
  refine (h before b after split).concat ?_
  cases after with
  | nil => exact inside
  | cons c after => exact (within c (by simp [split])).le

theorem flatMap_linesOf_concat (within : ∀ b ∈ bs, b.offset < ls.length) :
    bs.flatMap (linesOf (ls ++ [line])) = bs.flatMap (linesOf ls) := by
  induction bs with
  | nil => rfl
  | cons b bs ih =>
    obtain ⟨hb, hbs⟩ := List.forall_mem_cons.1 within
    rw [List.flatMap_cons, List.flatMap_cons, ih hbs, linesOf, linesOf,
      List.getElem?_append_left hb]

namespace Splitter

/-! ## The state of dividing -/

/-- The blocks that were read, first one first. -/
def read (s : Splitter) : List TagBlock :=
  s.blocks.reverse.map fun b => { b with lines := b.lines.reverse }

/-- What holds of the state of dividing when some lines have been read. -/
structure Divided (ls : List String) (s : Splitter) : Prop where
  /-- A block is begun at the first tag line. -/
  started : s.read = [] ↔ taggedLines ls = []
  /-- A value counts as open behind an odd number of delimiters. -/
  inValue : s.inValue = (delimiters (taggedLines ls) % 2 == 1)
  comment : s.comment.reverse = ((freeLines ls).map strip).filter (· ≠ "")
  heads : ∀ i, (∃ b ∈ s.read, b.offset = i) ↔ ∃ name rest, HeadAt ls i name rest
  sorted : s.read.Pairwise (·.offset < ·.offset)
  /-- A block goes on up to the next head or to the end. -/
  stands : StandIn ls ls.length s.read
  whole : ls = freeLines ls ++ s.read.flatMap (linesOf ls)

variable {s : Splitter}

theorem Divided.within (h : Divided ls s) {b : TagBlock} (hb : b ∈ s.read) :
    b.offset < ls.length := by
  obtain ⟨name, rest, head⟩ := (h.heads b.offset).1 ⟨b, hb, rfl⟩
  exact lt_of_headAt head

theorem Divided.even_iff (h : Divided ls s) :
    Even (delimiters (taggedLines ls)) ↔ s.inValue = false := by
  rw [h.inValue, beq_eq_false_iff_ne, Nat.even_iff]
  omega

/-- The delimiters of a line that belongs to a block are counted. -/
theorem Divided.inValue_toggle (h : Divided ls s)
    (counted : taggedLines (ls ++ [line]) = taggedLines ls ++ [line]) (bs : List TagBlock) :
    (toggle { s with blocks := bs } (strip line)).inValue =
      (delimiters (taggedLines (ls ++ [line])) % 2 == 1) := by
  have total : delimiters (taggedLines (ls ++ [line])) =
      countSeq multiline (strip line) + delimiters (taggedLines ls) := by
    rw [counted, delimiters_append, delimiters, delimiters, countSeq_strip]
    omega
  rw [total, ← bne_odd, ← h.inValue]
  rfl

/-! ## One line -/

/-- A head begins a block. -/
theorem Divided.begin (h : Divided ls s) {name rest : String} (closed : s.inValue = false)
    (form : HeadForm (strip line) name rest) :
    Divided (ls ++ [line])
      (toggle { s with blocks := ⟨name, ls.length, [rest]⟩ :: s.blocks } (strip line)) := by
  have tag : isTagLine line = true := isTagLine_iff.2 ⟨name, rest, form⟩
  have free : freeLines (ls ++ [line]) = freeLines ls := by
    rw [freeLines_concat, if_neg (by simp [tag])]
  have tagged : taggedLines (ls ++ [line]) = taggedLines ls ++ [line] := by
    rw [taggedLines_concat, if_neg (by simp [tag])]
  have read_eq : (toggle { s with blocks := ⟨name, ls.length, [rest]⟩ :: s.blocks }
      (strip line)).read = s.read ++ [⟨name, ls.length, [rest]⟩] := by
    simp [read, toggle]
  refine ⟨?_, h.inValue_toggle tagged _, ?_, fun i => ?_, ?_, ?_, ?_⟩
  · simp [read_eq, tagged]
  · rw [free]
    exact h.comment
  · simp only [read_eq, List.mem_append, List.mem_singleton, or_and_right, exists_or,
      exists_eq_left, h.heads i, headAt_concat]
    refine or_congr Iff.rfl ⟨fun same => ⟨name, rest, same.symm, form, h.even_iff.2 closed⟩, ?_⟩
    rintro ⟨_, _, same, -⟩
    exact same.symm
  · rw [read_eq, List.pairwise_append]
    refine ⟨h.sorted, List.pairwise_singleton _ _, fun b hb c hc => ?_⟩
    obtain rfl := List.mem_singleton.1 hc
    exact h.within hb
  · rw [read_eq, standIn_concat_iff]
    refine ⟨h.stands.concat (Nat.le_refl _) fun b => h.within, line, rest, ?_, form, ?_⟩
    · exact List.getElem?_concat_length
    · simp
  · rw [free, read_eq, List.flatMap_append, flatMap_linesOf_concat fun b => h.within,
      ← List.append_assoc, ← h.whole]
    simp [linesOf]

/-- Every other line goes on with the last block. -/
theorem Divided.goOn (h : Divided ls s) {b : TagBlock} {bs : List TagBlock}
    (blocks : s.blocks = b :: bs)
    (free : s.inValue = false → ∀ name rest, ¬HeadForm (strip line) name rest) :
    Divided (ls ++ [line])
      (toggle { s with blocks := { b with lines := line :: b.lines } :: bs } (strip line)) := by
  have begun : ¬taggedLines ls = [] := fun none => by
    have := h.started.2 none
    simp [read, blocks] at this
  have freeLines_eq : freeLines (ls ++ [line]) = freeLines ls := by
    rw [freeLines_concat, if_neg fun h => begun h.1]
  have tagged : taggedLines (ls ++ [line]) = taggedLines ls ++ [line] := by
    rw [taggedLines_concat, if_neg fun h => begun h.1]
  obtain ⟨older, last, read_old, read_new⟩ : ∃ older last, s.read = older ++ [last] ∧
      (toggle { s with blocks := { b with lines := line :: b.lines } :: bs } (strip line)).read =
        older ++ [{ last with lines := last.lines ++ [line] }] :=
    ⟨bs.reverse.map fun b => { b with lines := b.lines.reverse },
      { b with lines := b.lines.reverse }, by simp [read, blocks], by simp [read, toggle]⟩
  have stands := h.stands
  have sorted := h.sorted
  rw [read_old, standIn_concat_iff] at stands
  rw [read_old, List.pairwise_append] at sorted
  obtain ⟨stands, ends⟩ := stands
  have within : ∀ c ∈ older, c.offset < ls.length := fun c hc => h.within (by simp [read_old, hc])
  refine ⟨?_, h.inValue_toggle tagged _, ?_, fun i => ?_, ?_, ?_, ?_⟩
  · simp [read_new, tagged]
  · rw [freeLines_eq]
    exact h.comment
  · have heads := h.heads i
    simp only [read_old, List.mem_append, List.mem_singleton, or_and_right, exists_or,
      exists_eq_left] at heads
    simp only [read_new, List.mem_append, List.mem_singleton, or_and_right, exists_or,
      exists_eq_left, heads, headAt_concat]
    refine (or_iff_left ?_).symm
    rintro ⟨name, rest, -, form, even⟩
    exact free (h.even_iff.1 even) name rest form
  · rw [read_new, List.pairwise_append]
    refine ⟨sorted.1, List.pairwise_singleton _ _, fun c hc d hd => ?_⟩
    obtain rfl := List.mem_singleton.1 hd
    exact sorted.2.2 c hc last (List.mem_singleton_self last)
  · rw [read_new, standIn_concat_iff]
    exact ⟨stands.concat ends.offset_lt.le within, ends.goOn⟩
  · have whole := h.whole
    rw [read_old, List.flatMap_append, List.flatMap_singleton, ← List.append_assoc] at whole
    rw [freeLines_eq, read_new, List.flatMap_append, flatMap_linesOf_concat within,
      List.flatMap_singleton, ends.linesOf_goOn, ← List.append_assoc, ← List.append_assoc, ← whole]

/-- Before the first block, a line that is not blank belongs to the comment. -/
theorem Divided.comment_line (h : Divided ls s) (blocks : s.blocks = [])
    (free : isTagLine line = false) :
    Divided (ls ++ [line])
      (if strip line = "" then s else { s with comment := strip line :: s.comment }) := by
  have none : s.read = [] := by simp [read, blocks]
  have untagged : taggedLines ls = [] := h.started.1 none
  have all : freeLines ls = ls := by
    simpa [untagged] using freeLines_append_taggedLines ls
  have untagged' : taggedLines (ls ++ [line]) = [] := by
    rw [taggedLines_concat, if_pos ⟨untagged, free⟩]
  have all' : freeLines (ls ++ [line]) = ls ++ [line] := by
    rw [freeLines_concat, if_pos ⟨untagged, free⟩]
  have comment := h.comment
  rw [all] at comment
  generalize after_eq : (if strip line = "" then s
    else { s with comment := strip line :: s.comment }) = after
  have none' : after.read = [] := by
    subst after_eq
    split <;> exact none
  have inValue : after.inValue = s.inValue := by
    subst after_eq
    split <;> rfl
  refine ⟨by simp [none', untagged'], ?_, ?_, fun i => ?_, ?_, ?_, ?_⟩
  · rw [inValue, h.inValue, untagged, untagged']
  · rw [all', List.map_append, List.filter_append, ← comment]
    subst after_eq
    by_cases blank : strip line = "" <;> simp [blank]
  · have heads := h.heads i
    have form : ∀ name rest, ¬HeadForm (strip line) name rest := fun name rest form => by
      have := isTagLine_iff.2 ⟨name, rest, form⟩
      simp [free] at this
    simp only [none] at heads
    simp [none', headAt_concat, form, ← heads]
  · simp [none']
  · intro before b after split
    simp [none'] at split
  · simp [none', all']

/-- One line keeps what holds. -/
theorem Divided.step (h : Divided ls s) (line : String) :
    Divided (ls ++ [line]) (s.step line ls.length) := by
  unfold Splitter.step
  dsimp only
  split
  · next name rest head =>
    obtain ⟨closed, head⟩ := Option.ite_none_left_eq_some.1 head
    exact h.begin (by simpa using closed) (head?_eq_some_iff.1 head)
  · next noHead =>
    have free : s.inValue = false → ∀ name rest, ¬HeadForm (strip line) name rest := by
      intro closed name rest form
      rw [if_neg (by simp [closed]), head?_eq_some_iff.2 form] at noHead
      cases noHead
    split
    · next blocks =>
      have untagged : taggedLines ls = [] := h.started.1 (by simp [read, blocks])
      have closed : s.inValue = false := by
        rw [h.inValue, untagged]
        rfl
      refine h.comment_line blocks (Bool.eq_false_iff.2 fun tag => ?_)
      obtain ⟨name, rest, form⟩ := isTagLine_iff.1 tag
      exact free closed name rest form
    · next b bs blocks => exact h.goOn blocks free

/-- What one line keeps holds of all lines. -/
theorem divided_foldl (ls : List String) :
    Divided ls (ls.zipIdx.foldl (fun s (line, i) => s.step line i) ({} : Splitter)) := by
  induction ls using List.reverseRecOn with
  | nil =>
    refine ⟨by simp [read, taggedLines], rfl, rfl, fun i => ?_, List.Pairwise.nil, ?_, rfl⟩
    · simp [read, HeadAt]
    · intro before b after split
      simp [read] at split
  | append_singleton ls line ih =>
    rw [List.zipIdx_append, List.foldl_append, List.zipIdx_singleton, Nat.zero_add]
    exact ih.step line

end Splitter

/-! ## The lines of a docstring -/

theorem length_freeLines_le {i : Nat} {name rest : String} (h : HeadAt ls i name rest) :
    (freeLines ls).length ≤ i := by
  obtain ⟨line, at_i, form, -⟩ := h
  by_contra before
  have free : line ∈ freeLines ls := by
    have prefixed : ls[i]? = (freeLines ls)[i]? := by
      rw [← List.getElem?_append_left (Nat.lt_of_not_le before), freeLines_append_taggedLines]
    exact List.mem_of_getElem? (prefixed ▸ at_i)
  have tag : isTagLine line = true := isTagLine_iff.2 ⟨name, rest, form⟩
  simpa [tag] using List.mem_takeWhile_imp free

/-- The first tag line is a head. -/
theorem headAt_length_freeLines (some : taggedLines ls ≠ []) :
    ∃ name rest, HeadAt ls (freeLines ls).length name rest := by
  obtain ⟨line, more, tagged⟩ := List.exists_cons_of_ne_nil some
  have whole : ls = freeLines ls ++ line :: more := by
    rw [← tagged, freeLines_append_taggedLines]
  have tag : isTagLine line = true := by
    have := List.head?_dropWhile_not (!isTagLine ·) ls
    rw [show ls.dropWhile (!isTagLine ·) = line :: more from tagged] at this
    simpa using this
  obtain ⟨name, rest, form⟩ := isTagLine_iff.1 tag
  have none : taggedLines (ls.take (freeLines ls).length) = [] := by
    rw [taggedLines_eq_nil_iff]
    intro l hl
    have free : l ∈ freeLines ls := by
      rwa [whole, List.take_left' (by rw [← whole])] at hl
    simpa using List.mem_takeWhile_imp free
  refine ⟨name, rest, line, ?_, form, ?_⟩
  · have := congrArg (·[(freeLines ls).length]?) whole
    simpa using this
  · rw [none]
    exact ⟨0, rfl⟩

theorem Splitter.Divided.freeLines_eq {s : Splitter} (h : s.Divided ls) :
    freeLines ls = ls.take ((s.read.map (·.offset)).head?.getD ls.length) := by
  have split := freeLines_append_taggedLines ls
  cases read : s.read with
  | nil =>
    rw [h.started.1 read, List.append_nil] at split
    simp [split]
  | cons b bs =>
    have begun : taggedLines ls ≠ [] := fun none => by
      simpa [read] using h.started.2 none
    obtain ⟨name, rest, first⟩ := (h.heads b.offset).1 ⟨b, by simp [read], rfl⟩
    obtain ⟨c, hc, same⟩ := (h.heads _).2 (headAt_length_freeLines begun)
    have below : b.offset ≤ c.offset := by
      have sorted := h.sorted
      rw [read] at hc sorted
      rcases List.mem_cons.1 hc with rfl | hc
      · exact Nat.le_refl _
      · exact ((List.pairwise_cons.1 sorted).1 c hc).le
    have offset : b.offset = (freeLines ls).length :=
      le_antisymm (same ▸ below) (length_freeLines_le first)
    have front : (freeLines ls ++ taggedLines ls).take (freeLines ls).length = freeLines ls :=
      List.take_left
    rw [split] at front
    simp [offset, front]

/-- Each block begins at a head and ends at the next block. -/
theorem Splitter.Divided.headAt {s : Splitter} (h : s.Divided ls) {before after : List TagBlock}
    (split : s.read = before ++ b :: after) : ∃ rest, HeadAt ls b.offset b.name rest ∧
      b.lines = rest ::
        (ls.take ((after.map (·.offset)).head?.getD ls.length)).drop (b.offset + 1) := by
  obtain ⟨line, rest, at_offset, form, lines_eq⟩ := h.stands before b after split
  obtain ⟨name, rest', line', at_offset', -, even⟩ :=
    (h.heads b.offset).1 ⟨b, split ▸ List.mem_append_right _ List.mem_cons_self, rfl⟩
  obtain rfl : line' = line := by simpa [at_offset] using at_offset'.symm
  exact ⟨rest, ⟨line', at_offset, form, even⟩, lines_eq⟩

/-- The state that a text leaves is the one that its blocks are read off. -/
theorem exists_divided (text : String) :
    ∃ s, Splitter.Divided (lines (dedent text)) s ∧ split text = s.finish :=
  ⟨_, Splitter.divided_foldl _, rfl⟩

/-- **Comment and blocks of a docstring.** A block begins at each head and nowhere else, in the
order of the lines; it has the name and the rest of its head and the lines below it, as they are, up
to the next head or to the end. The lines before the first head make up the comment, trimmed and
without the blank ones. So every line has one place. -/
theorem split_divided (text : String) :
    let ls := lines (dedent text)
    let d := split text
    let free := ls.take ((d.blocks.map (·.offset)).head?.getD ls.length)
    (∀ i, (∃ b ∈ d.blocks, b.offset = i) ↔ ∃ name rest, HeadAt ls i name rest) ∧
      d.blocks.Pairwise (·.offset < ·.offset) ∧
      (∀ before b after, d.blocks = before ++ b :: after → ∃ rest,
        HeadAt ls b.offset b.name rest ∧ b.lines = rest ::
          (ls.take ((after.map (·.offset)).head?.getD ls.length)).drop (b.offset + 1)) ∧
      d.comment = join "\n" ((free.map strip).filter (· ≠ "")) ∧
      ls = free ++ d.blocks.flatMap fun b => (ls[b.offset]?).toList ++ b.lines.tail := by
  intro ls d free
  obtain ⟨s, h, read⟩ : ∃ s, Splitter.Divided ls s ∧ d = s.finish := exists_divided text
  have blocks : d.blocks = s.read := congrArg Docstring.blocks read
  have free_eq : free = freeLines ls := by
    rw [h.freeLines_eq, ← blocks]
  rw [free_eq, blocks]
  refine ⟨h.heads, h.sorted, fun before b after split => h.headAt split, ?_, h.whole⟩
  rw [read, Splitter.finish, h.comment]

end Docstring

end ArchModel
