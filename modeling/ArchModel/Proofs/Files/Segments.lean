import ArchModel.Files.Pattern
import ArchModel.Proofs.Text.Cut

/-!
# Patterns, segment by segment

What a pattern selects is decided on its characters. It can be told on its segments as well, as long
as two stars stand together only where they are a whole segment.

* `NameFits` says which names a segment stands for, `SegmentsFit` which paths a list of segments
  stands for. Neither knows of the pieces of a pattern.
* `matchPieces_segment`: the pieces of a segment read a name that fits it, and no slash.
* `ReadsSegments` holds of a pattern whose pieces read what its segments fit. It goes on to hold
  when a segment is put in front (`ReadsSegments.segment_slash`, `stars_slash`).
* **`Pattern.accepts_segments`**: a path is selected if the segments of the pattern fit its
  segments.
-/

namespace ArchModel

open Text

/-- A segment of a pattern stands for a name, character by character. -/
inductive NameFits : List Char → List Char → Prop
  | nil : NameFits [] []
  /-- A question mark stands for any one character. -/
  | one (c : Char) {ps cs : List Char} (rest : NameFits ps cs) : NameFits ('?' :: ps) (c :: cs)
  /-- A star stands for any run of characters, also for none. -/
  | run (r : List Char) {ps cs : List Char} (rest : NameFits ps cs) : NameFits ('*' :: ps) (r ++ cs)
  /-- Any other character stands for itself. -/
  | char {c : Char} {ps cs : List Char} (notOne : c ≠ '?') (notRun : c ≠ '*')
    (rest : NameFits ps cs) : NameFits (c :: ps) (c :: cs)

/-- The segments of a pattern stand for the segments of a path. -/
inductive SegmentsFit : List String → List String → Prop
  | nil : SegmentsFit [] []
  /-- Two stars with segments behind them stand for any segments, also for none. -/
  | dirs (passed : List String) {segs names : List String} (more : segs ≠ [])
    (rest : SegmentsFit segs names) : SegmentsFit ("**" :: segs) (passed ++ names)
  /-- Two stars at the end stand for one segment or more. -/
  | all {names : List String} (some : names ≠ []) : SegmentsFit ["**"] names
  /-- Any other segment stands for one segment. -/
  | name {seg name : String} {segs names : List String} (plain : seg ≠ "**")
    (fits : NameFits seg.toList name.toList) (rest : SegmentsFit segs names) :
    SegmentsFit (seg :: segs) (name :: names)

/-- Two stars stand together only where they are the whole segment. -/
def IsSegment (seg : String) : Prop := seg = "**" ∨ ¬"**".toList <:+: seg.toList

instance (seg : String) : Decidable (IsSegment seg) :=
  inferInstanceAs (Decidable (seg = "**" ∨ ¬"**".toList <:+: seg.toList))

/-- A character of a segment stands for a run of characters. -/
inductive CharFits : Char → List Char → Prop
  | one (c : Char) : CharFits '?' [c]
  | run (r : List Char) : CharFits '*' r
  | char {c : Char} (notOne : c ≠ '?') (notRun : c ≠ '*') : CharFits c [c]

namespace NameFits

variable {c : Char} {ps cs : List Char}

theorem nil_iff : NameFits [] cs ↔ cs = [] :=
  ⟨fun h => by cases h; rfl, fun h => h ▸ .nil⟩

theorem cons_iff : NameFits (c :: ps) cs ↔
    ∃ r rest, cs = r ++ rest ∧ CharFits c r ∧ NameFits ps rest := by
  constructor
  · intro h
    cases h with
    | one c rest => exact ⟨[c], _, rfl, .one c, rest⟩
    | run r rest => exact ⟨r, _, rfl, .run r, rest⟩
    | char notOne notRun rest => exact ⟨[c], _, rfl, .char notOne notRun, rest⟩
  · rintro ⟨r, rest, rfl, fits, h⟩
    cases fits with
    | one c => exact .one c h
    | run r => exact .run r h
    | char notOne notRun => exact .char notOne notRun h

end NameFits

namespace SegmentsFit

variable {seg : String} {segs names : List String}

theorem dirs_iff (more : segs ≠ []) :
    SegmentsFit ("**" :: segs) names ↔
      ∃ passed rest, names = passed ++ rest ∧ SegmentsFit segs rest := by
  refine ⟨fun h => ?_, ?_⟩
  · cases h with
    | dirs passed _ rest => exact ⟨passed, _, rfl, rest⟩
    | all => exact absurd rfl more
    | name plain => exact absurd rfl plain
  · rintro ⟨passed, rest, rfl, h⟩
    exact .dirs passed more h

theorem name_iff (plain : seg ≠ "**") :
    SegmentsFit (seg :: segs) names ↔
      ∃ name rest, names = name :: rest ∧ NameFits seg.toList name.toList ∧
        SegmentsFit segs rest := by
  refine ⟨fun h => ?_, ?_⟩
  · cases h with
    | dirs => exact absurd rfl plain
    | all => exact absurd rfl plain
    | name _ fits rest => exact ⟨_, _, rfl, fits, rest⟩
  · rintro ⟨name, rest, rfl, fits, h⟩
    exact .name plain fits h

/-- Segments stand for at least one segment. -/
theorem ne_nil (h : SegmentsFit segs names) (hne : segs ≠ []) : names ≠ [] := by
  induction h with
  | nil => exact absurd rfl hne
  | dirs passed more _ ih => exact fun none => ih more (List.append_eq_nil_iff.1 none).2
  | all some => exact some
  | name => exact List.cons_ne_nil _ _

/-- Where no segment is two stars, each stands for one segment. -/
theorem length_eq (h : SegmentsFit segs names) (plain : "**" ∉ segs) :
    segs.length = names.length := by
  induction h with
  | nil => rfl
  | dirs => exact absurd List.mem_cons_self plain
  | all => exact absurd List.mem_cons_self plain
  | name _ _ _ ih =>
    rw [List.length_cons, List.length_cons, ih fun h => plain (List.mem_cons_of_mem _ h)]

end SegmentsFit

/-! ## The segments of a text -/

/-- The texts between the slashes. -/
def segmentsOf (cs : List Char) : List String := (cs.splitOn '/').map String.ofList

section segmentsOf

variable {a b cs : List Char} {passed rest : List String}

theorem segmentsOf_ne_nil (cs : List Char) : segmentsOf cs ≠ [] := by simp [segmentsOf]

theorem segmentsOf_append (a b : List Char) :
    segmentsOf (a ++ '/' :: b) = segmentsOf a ++ segmentsOf b := by
  rw [segmentsOf, List.splitOn_append_cons_self, List.map_append, segmentsOf, segmentsOf]

theorem segmentsOf_of_notMem (h : '/' ∉ cs) : segmentsOf cs = [String.ofList cs] := by
  rw [segmentsOf, List.splitOn_eq_singleton h, List.map_singleton]

theorem segmentsOf_append_of_notMem (h : '/' ∉ a) (b : List Char) :
    segmentsOf (a ++ '/' :: b) = String.ofList a :: segmentsOf b := by
  rw [segmentsOf_append, segmentsOf_of_notMem h, List.singleton_append]

/-- A segment is the whole text, or it ends at the first slash. -/
theorem slash_cases (cs : List Char) :
    '/' ∉ cs ∨ ∃ seg rest, cs = seg ++ '/' :: rest ∧ '/' ∉ seg := by
  by_cases h : '/' ∈ cs
  · exact .inr (List.eq_append_cons_of_mem h)
  · exact .inl h

/-- Where the segments of a text are parted, there is a slash. -/
theorem exists_of_segmentsOf_eq_append (h : segmentsOf cs = passed ++ rest) (hp : passed ≠ [])
    (hr : rest ≠ []) : ∃ a b, cs = a ++ '/' :: b ∧ segmentsOf a = passed ∧ segmentsOf b = rest := by
  induction passed generalizing cs with
  | nil => exact absurd rfl hp
  | cons first passed ih =>
    rcases slash_cases cs with none | ⟨seg, behind, rfl, apart⟩
    · rw [segmentsOf_of_notMem none, List.cons_append] at h
      exact absurd (List.append_eq_nil_iff.1 (List.cons.inj h).2.symm).2 hr
    · rw [segmentsOf_append_of_notMem apart, List.cons_append] at h
      obtain ⟨rfl, parts⟩ := List.cons_eq_cons.1 h
      cases passed with
      | nil => exact ⟨seg, behind, rfl, segmentsOf_of_notMem apart, parts⟩
      | cons next passed =>
        obtain ⟨a, b, rfl, ha, hb⟩ := ih parts (List.cons_ne_nil _ _)
        refine ⟨seg ++ '/' :: a, b, by simp, ?_, hb⟩
        rw [segmentsOf_append_of_notMem apart, ha]

/-- What holds of segments, and goes on to hold when one is put in front, holds of all texts. -/
@[elab_as_elim]
theorem segments_induction {motive : List Char → Prop}
    (last : ∀ seg, '/' ∉ seg → motive seg)
    (slash : ∀ seg rest, '/' ∉ seg → motive rest → motive (seg ++ '/' :: rest))
    (cs : List Char) : motive cs := by
  induction hn : cs.length using Nat.strong_induction_on generalizing cs with
  | _ n ih =>
    rcases slash_cases cs with none | ⟨seg, rest, rfl, apart⟩
    · exact last cs none
    · have shorter : rest.length < n := by
        rw [← hn, List.length_append, List.length_cons]
        omega
      exact slash seg rest apart (ih _ shorter rest rfl)

theorem length_segmentsOf (cs : List Char) : (segmentsOf cs).length = cs.count '/' + 1 := by
  induction cs using segments_induction with
  | last seg apart =>
    rw [segmentsOf_of_notMem apart, List.count_eq_zero_of_not_mem apart, List.length_singleton]
  | slash seg rest apart ih =>
    rw [segmentsOf_append_of_notMem apart, List.length_cons, ih, List.count_append,
      List.count_eq_zero_of_not_mem apart, List.count_cons_self, Nat.zero_add]

end segmentsOf

namespace Pattern

variable {cs ps : List Char} {pieces : List PatternPiece}

/-! ## Pieces -/

theorem piecesOf_run (h : ∀ more, cs ≠ '*' :: more) :
    piecesOf ('*' :: cs) = .run :: piecesOf cs := by
  cases cs with
  | nil => rfl
  | cons c cs =>
    have apart : c ≠ '*' := fun e => h cs (e ▸ rfl)
    simp [piecesOf, apart]

theorem piecesOf_char {c : Char} (notOne : c ≠ '?') (notRun : c ≠ '*') :
    piecesOf (c :: cs) = .char c :: piecesOf cs := by
  simp [piecesOf, notRun]

theorem mem_tailsWhile_iff {α : Type} {p : α → Bool} {l tail : List α} :
    tail ∈ tailsWhile p l ↔ ∃ run, l = run ++ tail ∧ ∀ a ∈ run, p a = true := by
  induction l with
  | nil =>
    rw [tailsWhile, List.mem_singleton]
    refine ⟨fun h => ⟨[], h.symm, by simp⟩, ?_⟩
    rintro ⟨run, he, -⟩
    exact (List.append_eq_nil_iff.1 he.symm).2
  | cons a l ih =>
    rw [tailsWhile, List.mem_cons]
    constructor
    · rintro (rfl | h)
      · exact ⟨[], rfl, by simp⟩
      · split at h
        · next ha =>
          obtain ⟨run, rfl, hr⟩ := ih.1 h
          exact ⟨a :: run, rfl, List.forall_mem_cons.2 ⟨ha, hr⟩⟩
        · cases h
    · rintro ⟨run, he, hr⟩
      cases run with
      | nil => exact .inl he.symm
      | cons b run =>
        obtain ⟨rfl, rfl⟩ := List.cons.inj he
        obtain ⟨hb, hr⟩ := List.forall_mem_cons.1 hr
        rw [if_pos hb]
        exact .inr (ih.2 ⟨run, rfl, hr⟩)

theorem any_tailsWhile_iff {x : Char} {f : List Char → Bool} :
    (tailsWhile (· != x) cs).any f = true ↔
      ∃ run tail, cs = run ++ tail ∧ x ∉ run ∧ f tail = true := by
  simp only [List.any_eq_true, mem_tailsWhile_iff, bne_iff_ne]
  constructor
  · rintro ⟨tail, ⟨run, rfl, apart⟩, h⟩
    exact ⟨run, tail, rfl, fun hx => apart x hx rfl, h⟩
  · rintro ⟨run, tail, rfl, apart, h⟩
    exact ⟨tail, ⟨run, rfl, fun a ha e => apart (e ▸ ha)⟩, h⟩

theorem matchPieces_run :
    matchPieces (.run :: pieces) cs = true ↔
      ∃ run tail, cs = run ++ tail ∧ '/' ∉ run ∧ matchPieces pieces tail = true :=
  any_tailsWhile_iff

theorem matchPieces_any :
    matchPieces (.any :: pieces) cs = true ↔
      ∃ run tail, cs = run ++ tail ∧ '\n' ∉ run ∧ matchPieces pieces tail = true :=
  any_tailsWhile_iff

theorem matchPieces_one :
    matchPieces (.one :: pieces) cs = true ↔
      ∃ c tail, cs = c :: tail ∧ c ≠ '/' ∧ matchPieces pieces tail = true := by
  cases cs <;> simp [matchPieces]

theorem matchPieces_char {c : Char} :
    matchPieces (.char c :: pieces) cs = true ↔
      ∃ tail, cs = c :: tail ∧ matchPieces pieces tail = true := by
  cases cs with
  | nil => simp [matchPieces]
  | cons d cs => simp [matchPieces, and_comm, eq_comm (a := c)]

theorem matchPieces_dirs :
    matchPieces (.dirs :: pieces) cs = true ↔ matchPieces pieces cs = true ∨
      ∃ run tail, cs = run ++ '/' :: tail ∧ '\n' ∉ run ∧ matchPieces pieces tail = true := by
  rw [matchPieces, Bool.or_eq_true, any_tailsWhile_iff]
  refine or_congr_right ⟨?_, ?_⟩
  · rintro ⟨run, tail, rfl, apart, h⟩
    split at h
    · exact ⟨run, _, rfl, apart, h⟩
    · cases h
  · rintro ⟨run, tail, rfl, apart, h⟩
    exact ⟨run, _, rfl, apart, h⟩

/-- At the end of a pattern a text of one line is read to its end. -/
theorem matchPieces_nil (line : '\n' ∉ cs) : matchPieces [] cs = true ↔ cs = [] := by
  rw [matchPieces, Bool.or_eq_true, List.isEmpty_iff, beq_iff_eq]
  refine or_iff_left ?_
  rintro rfl
  exact line (List.mem_singleton.2 rfl)

/-! ## Segments -/

/-- The piece of a character that is no slash, nor one of two stars, reads what fits it. -/
theorem matchPieces_cons {c : Char} {more : List Char} (noSlash : c ≠ '/')
    (single : c = '*' → ∀ more', more ≠ '*' :: more') :
    matchPieces (piecesOf (c :: more)) cs = true ↔
      ∃ r tail, cs = r ++ tail ∧ '/' ∉ r ∧ CharFits c r ∧
        matchPieces (piecesOf more) tail = true := by
  by_cases run : c = '*'
  · subst run
    rw [piecesOf_run (single rfl), matchPieces_run]
    constructor
    · rintro ⟨r, tail, rfl, hr, h⟩
      exact ⟨r, tail, rfl, hr, .run r, h⟩
    · rintro ⟨r, tail, rfl, hr, -, h⟩
      exact ⟨r, tail, rfl, hr, h⟩
  · by_cases one : c = '?'
    · subst one
      have piece : piecesOf ('?' :: more) = .one :: piecesOf more := rfl
      rw [piece, matchPieces_one]
      constructor
      · rintro ⟨d, tail, rfl, hd, h⟩
        exact ⟨[d], tail, rfl, by simpa using hd.symm, .one d, h⟩
      · rintro ⟨r, tail, rfl, hr, fits, h⟩
        cases fits with
        | one d => exact ⟨d, tail, rfl, fun e => hr (e ▸ List.mem_cons_self), h⟩
        | char notOne => exact absurd rfl notOne
    · rw [piecesOf_char one run, matchPieces_char]
      constructor
      · rintro ⟨tail, rfl, h⟩
        exact ⟨[c], tail, rfl, by simpa using noSlash.symm, .char one run, h⟩
      · rintro ⟨r, tail, rfl, -, fits, h⟩
        cases fits with
        | one => exact absurd rfl one
        | run => exact absurd rfl run
        | char => exact ⟨tail, rfl, h⟩

/-- The pieces of a segment read a name, and those behind it what is left. -/
theorem matchPieces_segment {seg rest : List Char} (noSlash : '/' ∉ seg)
    (single : ¬['*', '*'] <:+: seg) (border : ∀ more, rest ≠ '*' :: more) :
    matchPieces (piecesOf (seg ++ rest)) cs = true ↔
      ∃ name tail, cs = name ++ tail ∧ '/' ∉ name ∧ NameFits seg name ∧
        matchPieces (piecesOf rest) tail = true := by
  induction seg generalizing cs with
  | nil =>
    simp only [NameFits.nil_iff, List.nil_append]
    constructor
    · exact fun h => ⟨[], cs, rfl, List.not_mem_nil, rfl, h⟩
    · rintro ⟨name, tail, rfl, -, rfl, h⟩
      exact h
  | cons c seg ih =>
    rw [List.mem_cons, not_or] at noSlash
    have apart (run : c = '*') (more : List Char) : seg ++ rest ≠ '*' :: more := by
      intro he
      cases seg with
      | nil => exact border more he
      | cons d seg =>
        obtain ⟨rfl, -⟩ := List.cons.inj he
        exact single ⟨[], seg, run ▸ rfl⟩
    have ih {cs : List Char} := @ih cs noSlash.2 fun h => single (List.infix_cons h)
    rw [List.cons_append, matchPieces_cons (Ne.symm noSlash.1) apart]
    simp only [ih, NameFits.cons_iff]
    constructor
    · rintro ⟨r, -, rfl, hr, fit, name, tail, rfl, hn, fits, h⟩
      refine ⟨r ++ name, tail, by simp, ?_, ⟨r, name, rfl, fit, fits⟩, h⟩
      exact fun hm => (List.mem_append.1 hm).elim hr hn
    · rintro ⟨-, tail, rfl, hn, ⟨r, name, rfl, fit, fits⟩, h⟩
      rw [List.mem_append, not_or] at hn
      exact ⟨r, name ++ tail, by simp, hn.1, fit, name, tail, rfl, hn.2, fits, h⟩

/-- A pattern of one segment reads paths of one segment. -/
theorem matchPieces_lastSegment {seg : List Char} (noSlash : '/' ∉ seg)
    (single : ¬['*', '*'] <:+: seg) (line : '\n' ∉ cs) :
    matchPieces (piecesOf seg) cs = true ↔ '/' ∉ cs ∧ NameFits seg cs := by
  have read := @matchPieces_segment cs seg [] noSlash single (by simp)
  rw [List.append_nil] at read
  rw [read]
  constructor
  · rintro ⟨name, tail, rfl, apart, fits, h⟩
    have done : tail = [] :=
      (matchPieces_nil fun hm => line (List.mem_append_right _ hm)).1 h
    rw [done, List.append_nil]
    exact ⟨apart, fits⟩
  · rintro ⟨apart, fits⟩
    exact ⟨cs, [], (List.append_nil cs).symm, apart, fits, rfl⟩

/-- A segment with a slash behind it reads a segment with a slash behind it. -/
theorem matchPieces_segment_slash {seg rest : List Char} (noSlash : '/' ∉ seg)
    (single : ¬['*', '*'] <:+: seg) :
    matchPieces (piecesOf (seg ++ '/' :: rest)) cs = true ↔
      ∃ name tail, cs = name ++ '/' :: tail ∧ '/' ∉ name ∧ NameFits seg name ∧
        matchPieces (piecesOf rest) tail = true := by
  have slash : piecesOf ('/' :: rest) = .char '/' :: piecesOf rest := rfl
  rw [matchPieces_segment noSlash single (by simp), slash]
  simp only [matchPieces_char]
  constructor
  · rintro ⟨name, -, rfl, apart, fits, tail, rfl, h⟩
    exact ⟨name, tail, rfl, apart, fits, h⟩
  · rintro ⟨name, tail, rfl, apart, fits, h⟩
    exact ⟨name, _, rfl, apart, fits, tail, rfl, h⟩

/-! ## Whole patterns -/

/-- On paths of one line, what the pieces of a pattern read is what its segments fit. -/
def ReadsSegments (ps : List Char) : Prop := ∀ cs : List Char, '\n' ∉ cs →
  (matchPieces (piecesOf ps) cs = true ↔ SegmentsFit (segmentsOf ps) (segmentsOf cs))

namespace ReadsSegments

variable {seg rest : List Char}

theorem ofList_ne_stars (single : ¬['*', '*'] <:+: seg) : String.ofList seg ≠ "**" := by
  intro e
  have chars : seg = ['*', '*'] := by simpa using congrArg String.toList e
  exact single (chars ▸ List.infix_rfl)

/-- Two stars alone read everything. -/
theorem stars : ReadsSegments ['*', '*'] := by
  intro cs line
  have piece : piecesOf ['*', '*'] = [.any] := rfl
  have segs : segmentsOf ['*', '*'] = ["**"] := segmentsOf_of_notMem (by simp)
  rw [piece, segs, matchPieces_any]
  exact iff_of_true ⟨cs, [], (List.append_nil cs).symm, line, rfl⟩ (.all (segmentsOf_ne_nil cs))

theorem segment (noSlash : '/' ∉ seg) (single : ¬['*', '*'] <:+: seg) : ReadsSegments seg := by
  intro cs line
  have plain := ofList_ne_stars single
  rw [matchPieces_lastSegment noSlash single line, segmentsOf_of_notMem noSlash,
    SegmentsFit.name_iff plain, String.toList_ofList]
  constructor
  · rintro ⟨apart, fits⟩
    exact ⟨_, [], segmentsOf_of_notMem apart, by simpa using fits, .nil⟩
  · rintro ⟨name, names, hcs, fits, tail⟩
    cases tail
    rcases slash_cases cs with none | ⟨first, behind, rfl, apart⟩
    · rw [segmentsOf_of_notMem none] at hcs
      obtain ⟨rfl, -⟩ := List.cons.inj hcs
      exact ⟨none, by simpa using fits⟩
    · rw [segmentsOf_append_of_notMem apart] at hcs
      exact absurd (List.cons.inj hcs).2 (segmentsOf_ne_nil behind)

/-- Two stars pass over directories, up to any slash of the path. -/
theorem stars_slash (h : ReadsSegments rest) : ReadsSegments ('*' :: '*' :: '/' :: rest) := by
  intro cs line
  have piece : piecesOf ('*' :: '*' :: '/' :: rest) = .dirs :: piecesOf rest := rfl
  have segs : segmentsOf ('*' :: '*' :: '/' :: rest) = "**" :: segmentsOf rest :=
    segmentsOf_append_of_notMem (a := ['*', '*']) (by simp) rest
  rw [piece, segs, matchPieces_dirs, SegmentsFit.dirs_iff (segmentsOf_ne_nil rest), h cs line]
  constructor
  · rintro (fits | ⟨run, tail, rfl, -, read⟩)
    · exact ⟨[], _, rfl, fits⟩
    · have line' : '\n' ∉ tail := fun hm => line (by simp [hm])
      exact ⟨_, _, segmentsOf_append run tail, (h tail line').1 read⟩
  · rintro ⟨passed, names, hcs, fits⟩
    by_cases nothing : passed = []
    · rw [hcs, nothing]
      exact .inl fits
    · obtain ⟨run, tail, rfl, -, rfl⟩ := exists_of_segmentsOf_eq_append hcs nothing
        (fits.ne_nil (segmentsOf_ne_nil rest))
      rw [List.mem_append, List.mem_cons, not_or, not_or] at line
      exact .inr ⟨run, tail, rfl, line.1, (h tail line.2.2).2 fits⟩

theorem segment_slash (noSlash : '/' ∉ seg) (single : ¬['*', '*'] <:+: seg)
    (h : ReadsSegments rest) : ReadsSegments (seg ++ '/' :: rest) := by
  intro cs line
  have plain := ofList_ne_stars single
  rw [matchPieces_segment_slash noSlash single, segmentsOf_append_of_notMem noSlash,
    SegmentsFit.name_iff plain, String.toList_ofList]
  constructor
  · rintro ⟨name, tail, rfl, hn, fits, read⟩
    have line' : '\n' ∉ tail := fun hm => line (by simp [hm])
    exact ⟨_, _, segmentsOf_append_of_notMem hn tail, by simpa using fits, (h tail line').1 read⟩
  · rintro ⟨name, names, hcs, fits, more⟩
    rcases slash_cases cs with none | ⟨first, tail, rfl, hf⟩
    · rw [segmentsOf_of_notMem none] at hcs
      exact absurd (List.cons.inj hcs).2.symm (more.ne_nil (segmentsOf_ne_nil rest))
    · rw [segmentsOf_append_of_notMem hf] at hcs
      obtain ⟨rfl, rfl⟩ := List.cons.inj hcs
      have line' : '\n' ∉ tail := fun hm => line (by simp [hm])
      exact ⟨first, tail, rfl, hf, by simpa using fits, (h tail line').2 more⟩

end ReadsSegments

theorem readsSegments_of_whole (whole : ∀ seg ∈ segmentsOf ps, IsSegment seg) :
    ReadsSegments ps := by
  induction ps using segments_induction with
  | last seg apart =>
    rw [segmentsOf_of_notMem apart] at whole
    rcases whole _ List.mem_cons_self with stars | single
    · obtain rfl : seg = ['*', '*'] := by simpa using congrArg String.toList stars
      exact .stars
    · exact .segment apart (by simpa using single)
  | slash seg rest apart ih =>
    rw [segmentsOf_append_of_notMem apart] at whole
    obtain ⟨first, others⟩ := List.forall_mem_cons.1 whole
    rcases first with stars | single
    · obtain rfl : seg = ['*', '*'] := by simpa using congrArg String.toList stars
      exact (ih others).stars_slash
    · exact (ih others).segment_slash apart (by simpa using single)

/-- **A pattern selects the paths that its segments fit.** Let two stars stand together in a pattern
only as a whole segment. Then it selects a path of one line if and only if its segments fit those of
the path: two stars with segments behind them fit any segments or none, two stars at the end fit
one segment or more, and any other segment fits one segment, character by character. Without two
stars, the pattern has as many slashes as every path of one line that it selects. (Segments may be
empty on both sides, and the pattern may have line feeds.) -/
theorem accepts_segments :
    (∀ pattern path : String, (∀ seg ∈ split '/' pattern, IsSegment seg) → '\n' ∉ path.toList →
      ((ofText pattern).accepts path = true ↔
        SegmentsFit (split '/' pattern) (split '/' path))) ∧
    ∀ pattern path : String, ¬"**".toList <:+: pattern.toList → '\n' ∉ path.toList →
      (ofText pattern).accepts path = true →
      pattern.toList.count '/' = path.toList.count '/' := by
  have fits (pattern path : String) (whole : ∀ seg ∈ split '/' pattern, IsSegment seg)
      (line : '\n' ∉ path.toList) := readsSegments_of_whole whole path.toList line
  refine ⟨fits, fun pattern path single line selected => ?_⟩
  have plain : ∀ seg ∈ split '/' pattern, ¬"**".toList <:+: seg.toList := by
    intro seg hs
    obtain ⟨part, hp, rfl⟩ := List.mem_map.1 hs
    have there : (String.ofList part).toList <:+: pattern.toList := by
      rw [String.toList_ofList]
      exact (mem_splitOn hp).2
    exact fun inside => single (inside.trans there)
  have whole : ∀ seg ∈ split '/' pattern, IsSegment seg := fun seg hs => .inr (plain seg hs)
  have noStars : "**" ∉ split '/' pattern := fun hm => plain _ hm List.infix_rfl
  have lengths := ((fits pattern path whole line).1 selected).length_eq noStars
  rw [length_segmentsOf, length_segmentsOf] at lengths
  omega

theorem accepts_segments_tests :
    (∀ seg ∈ split '/' "src/**/t?st_*.py", IsSegment seg) ∧
    '\n' ∉ "src/shop/orders/test_api.py".toList ∧
    SegmentsFit (split '/' "src/**/t?st_*.py") (split '/' "src/shop/orders/test_api.py") ∧
    ¬"**".toList <:+: "src/*/t?st_*.py".toList ∧ '\n' ∉ "src/shop/test_api.py".toList ∧
    (ofText "src/*/t?st_*.py").accepts "src/shop/test_api.py" = true ∧
    "src/*/t?st_*.py".toList.count '/' = "src/shop/test_api.py".toList.count '/' := by
  have whole : ∀ seg ∈ split '/' "src/**/t?st_*.py", IsSegment seg := by decide +kernel
  have line : '\n' ∉ "src/shop/orders/test_api.py".toList := by decide +kernel
  have single : ¬"**".toList <:+: "src/*/t?st_*.py".toList := by decide +kernel
  have line' : '\n' ∉ "src/shop/test_api.py".toList := by decide +kernel
  have selected : (ofText "src/*/t?st_*.py").accepts "src/shop/test_api.py" = true := by
    decide +kernel
  exact ⟨whole, line, (accepts_segments.1 _ _ whole line).1 (by decide +kernel), single, line',
    selected, accepts_segments.2 _ _ single line' selected⟩

end Pattern

end ArchModel
