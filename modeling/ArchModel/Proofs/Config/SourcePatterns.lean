import ArchModel.Config.Container
import ArchModel.Proofs.Files.Segments
import ArchModel.Proofs.Files.Selection

/-!
# Source patterns that are accepted

A configuration is checked on its source patterns as they are written, and sources are selected by
the patterns as they are read: trimmed, with slashes only, without an exclamation mark and a `./` in
front. The two agree on trimmed patterns.

* `negated_ofText`, `body_ofText_eq_empty_iff` and `dots_of_body` say how a pattern reads in terms
  of its trimmed text.
* `sourceFaults_eq_nil_iff` says which patterns are accepted.
* `Pattern.ofText_injective`: a pattern is told by its pieces.
* **`ContainerConfig.accepted_patterns`**: what accepted patterns may include and where they may
  lead.
-/

namespace ArchModel

open Text

/-! ## Pieces and texts -/

namespace Pattern

/-- The text that stands for some pieces. -/
def textOf : List PatternPiece → List Char
  | [] => []
  | .dirs :: ps => '*' :: '*' :: '/' :: textOf ps
  | .any :: ps => '*' :: '*' :: textOf ps
  | .run :: ps => '*' :: textOf ps
  | .one :: ps => '?' :: textOf ps
  | .char c :: ps => c :: textOf ps

theorem textOf_piecesOf (cs : List Char) : textOf (piecesOf cs) = cs := by
  fun_induction piecesOf cs with
  | case1 => rfl
  | case2 cs ih => rw [textOf, ih]
  | case3 cs _ ih => rw [textOf, ih]
  | case4 cs _ _ ih => rw [textOf, ih]
  | case5 cs ih => rw [textOf, ih]
  | case6 c cs _ _ _ _ ih => rw [textOf, ih]

/-- Patterns are told apart by their pieces. -/
theorem ofText_injective : Function.Injective ofText := by
  intro s t same
  have pieces : piecesOf s.toList = piecesOf t.toList := congrArg Pattern.pieces same
  rw [← String.toList_inj, ← textOf_piecesOf s.toList, pieces, textOf_piecesOf]

end Pattern

/-! ## Reading a pattern -/

namespace WrittenPattern

/-- The characters with slashes in place of backslashes. -/
def slashed (cs : List Char) : List Char := cs.map fun c => if c = '\\' then '/' else c

/-- The characters without a `./` in front. -/
def withoutHere : List Char → List Char
  | '.' :: '/' :: cs => cs
  | cs => cs

variable {s : String} {cs : List Char}

theorem slashed_cons (c : Char) (cs : List Char) :
    slashed (c :: cs) = (if c = '\\' then '/' else c) :: slashed cs := rfl

theorem slashed_ne_mark (h : ∀ rest, cs ≠ '!' :: rest) (rest : List Char) :
    slashed cs ≠ '!' :: rest := by
  cases cs with
  | nil => simp [slashed]
  | cons c cs =>
    have apart : c ≠ '!' := fun e => h cs (e ▸ rfl)
    rw [slashed_cons]
    intro same
    have first := (List.cons.inj same).1
    split at first
    · simp at first
    · exact apart first

theorem startsWith_mark_iff : startsWith "!" s = true ↔ ∃ rest, s.toList = '!' :: rest := by
  rw [startsWith_iff]
  exact ⟨fun ⟨rest, h⟩ => ⟨rest, h.symm⟩, fun ⟨rest, h⟩ => ⟨rest, h.symm⟩⟩

theorem ofText_of_mark (h : stripChars s.toList = '!' :: cs) :
    ofText s = ⟨true, String.ofList (withoutHere (slashed cs))⟩ := by
  rw [ofText, toList_strip, h]
  rfl

theorem ofText_of_no_mark (h : ∀ rest, stripChars s.toList ≠ '!' :: rest) :
    ofText s = ⟨false, String.ofList (withoutHere (slashed (stripChars s.toList)))⟩ := by
  have apart := slashed_ne_mark h
  unfold ofText
  rw [toList_strip]
  dsimp only
  split
  · next rest mark => exact absurd mark (apart rest)
  · rfl

/-- A pattern excludes if its trimmed text has an exclamation mark in front. -/
theorem negated_ofText (s : String) : (ofText s).negated = startsWith "!" (strip s) := by
  rw [Bool.eq_iff_iff, startsWith_mark_iff, toList_strip]
  by_cases h : ∃ rest, stripChars s.toList = '!' :: rest
  · obtain ⟨rest, mark⟩ := h
    exact iff_of_true (congrArg negated (ofText_of_mark mark)) ⟨rest, mark⟩
  · have none : (ofText s).negated = false :=
      congrArg negated (ofText_of_no_mark fun rest mark => h ⟨rest, mark⟩)
    exact iff_of_false (by simp [none]) h

theorem withoutHere_eq_nil_iff : withoutHere cs = [] ↔ cs = [] ∨ cs = ['.', '/'] := by
  unfold withoutHere
  split
  · simp
  · next apart =>
    refine (or_iff_left ?_).symm
    rintro rfl
    exact apart [] rfl

theorem slashed_eq_nil_iff : slashed cs = [] ↔ cs = [] := List.map_eq_nil_iff

theorem slashed_eq_here_iff : slashed cs = ['.', '/'] ↔ cs = ['.', '/'] ∨ cs = ['.', '\\'] := by
  constructor
  · intro h
    obtain ⟨c, rest, rfl, dot, h⟩ := List.map_eq_cons_iff.1 h
    obtain ⟨d, rest, rfl, slash, h⟩ := List.map_eq_cons_iff.1 h
    obtain rfl := List.map_eq_nil_iff.1 h
    have dot : c = '.' := by
      split at dot
      · simp at dot
      · exact dot
    subst dot
    split at slash
    · next back => exact .inr (by rw [back])
    · exact .inl (by rw [slash])
  · rintro (rfl | rfl) <;> rfl

/-- A pattern that includes has nothing to match if its trimmed text is empty or a `./` alone. -/
theorem body_ofText_eq_empty_iff (included : (ofText s).negated = false) :
    (ofText s).body = "" ↔ strip s ∈ ["", "./", ".\\"] := by
  have plain : ∀ rest, stripChars s.toList ≠ '!' :: rest := fun rest mark => by
    simp [ofText_of_mark mark] at included
  have text (t : String) : strip s = t ↔ stripChars s.toList = t.toList := by
    rw [← String.toList_inj, toList_strip]
  rw [ofText_of_no_mark plain, String.ofList_eq_empty_iff, withoutHere_eq_nil_iff,
    slashed_eq_nil_iff, slashed_eq_here_iff]
  simp only [List.mem_cons, List.not_mem_nil, or_false, text]
  rfl

/-! ## Ways up -/

theorem dots_of_withoutHere (h : ".." ∈ segmentsOf (withoutHere cs)) : ".." ∈ segmentsOf cs := by
  unfold withoutHere at h
  split at h
  · next cs =>
    have segs : segmentsOf ('.' :: '/' :: cs) = "." :: segmentsOf cs :=
      segmentsOf_append_of_notMem (a := ['.']) (by simp) cs
    rw [segs]
    exact List.mem_cons_of_mem _ h
  · exact h

/-- An exclamation mark in front belongs to the first segment. -/
theorem dots_of_mark (h : ".." ∈ segmentsOf ('!' :: cs)) : ".." ∈ segmentsOf cs := by
  have first (seg : List Char) : ".." ≠ String.ofList ('!' :: seg) := fun same => by
    simpa using congrArg String.toList same
  rcases slash_cases cs with none | ⟨seg, rest, rfl, apart⟩
  · rw [segmentsOf_of_notMem (by simp [none]), List.mem_singleton] at h
    exact absurd h (first cs)
  · rw [← List.cons_append, segmentsOf_append_of_notMem (by simp [apart]), List.mem_cons] at h
    rw [segmentsOf_append_of_notMem apart]
    exact List.mem_cons_of_mem _ (h.resolve_left (first seg))

theorem dots_of_slashed (h : ".." ∈ segmentsOf (slashed cs)) :
    ".." ∈ segmentsOf (slashed (cs.dropWhile (· = '!'))) := by
  induction cs with
  | nil => exact h
  | cons c cs ih =>
    by_cases mark : c = '!'
    · subst mark
      rw [List.dropWhile_cons_of_pos (by simp)]
      exact ih (dots_of_mark h)
    · rwa [List.dropWhile_cons_of_neg (by simpa using mark)]

end WrittenPattern

namespace ContainerConfig

open WrittenPattern

variable {s : String} {patterns : List String}

theorem patternSegments_eq (s : String) :
    patternSegments s = segmentsOf (slashed (s.toList.dropWhile (· = '!'))) := by
  rw [patternSegments, split, String.toList_ofList]
  rfl

/-- A pattern leads up as it is read only if its trimmed text does as it is written. -/
theorem dots_of_body (h : ".." ∈ split '/' (ofText s).body) : ".." ∈ patternSegments (strip s) := by
  rw [patternSegments_eq, toList_strip]
  have chars : ".." ∈ segmentsOf (ofText s).body.toList := h
  by_cases marked : ∃ rest, stripChars s.toList = '!' :: rest
  · obtain ⟨rest, mark⟩ := marked
    rw [ofText_of_mark mark, String.toList_ofList] at chars
    rw [mark, List.dropWhile_cons_of_pos (by simp)]
    exact dots_of_slashed (dots_of_withoutHere chars)
  · rw [ofText_of_no_mark fun rest mark => marked ⟨rest, mark⟩, String.toList_ofList] at chars
    exact dots_of_slashed (dots_of_withoutHere chars)

theorem sourceFaults_eq_nil_iff : sourceFaults patterns = [] ↔
    (∃ s ∈ patterns, startsWith "!" s = false) ∧ ∀ s ∈ patterns, ".." ∉ patternSegments s := by
  rw [sourceFaults, List.append_eq_nil_iff, List.map_eq_nil_iff, List.filter_eq_nil_iff]
  refine and_congr ?_ ?_
  · simp
  · simp

theorem startsWith_mark_strip (h : startsWith "!" s = true) : startsWith "!" (strip s) = true := by
  obtain ⟨rest, chars⟩ := startsWith_mark_iff.1 h
  rw [startsWith_mark_iff, toList_strip, chars]
  exact ⟨_, stripChars_cons (by decide)⟩

/-- Nothing is included if each pattern excludes or has nothing to match. -/
theorem includes_eq_nil_iff : (SourcePatterns.ofTexts patterns).includes = [] ↔
    ∀ s ∈ patterns, startsWith "!" s = false →
      startsWith "!" (strip s) = true ∨ strip s ∈ ["", "./", ".\\"] := by
  rw [List.eq_nil_iff_forall_not_mem]
  constructor
  · intro none s hs _
    by_cases mark : startsWith "!" (strip s) = true
    · exact .inl mark
    · have included : (ofText s).negated = false := by simpa [negated_ofText] using mark
      refine .inr ((body_ofText_eq_empty_iff included).1 ?_)
      by_contra body
      exact none _ (SourcePatterns.mem_includes_iff.2 ⟨s, hs, included, body, rfl⟩)
  · intro lost p hp
    obtain ⟨s, hs, included, body, -⟩ := SourcePatterns.mem_includes_iff.1 hp
    have unmarked : ¬startsWith "!" (strip s) = true := by simpa [negated_ofText] using included
    have positive : startsWith "!" s = false := by
      rw [← Bool.not_eq_true]
      exact fun mark => unmarked (startsWith_mark_strip mark)
    rcases lost s hs positive with mark | empty
    · exact unmarked mark
    · exact body ((body_ofText_eq_empty_iff included).2 empty)

/-- What is compiled is the body of a pattern. -/
theorem exists_of_compiled {body : String}
    (h : Pattern.ofText body ∈ (SourcePatterns.ofTexts patterns).includes ++
      (SourcePatterns.ofTexts patterns).excludes) :
    ∃ s ∈ patterns, (ofText s).body = body := by
  rcases List.mem_append.1 h with h | h
  · obtain ⟨s, hs, -, -, same⟩ := SourcePatterns.mem_includes_iff.1 h
    exact ⟨s, hs, Pattern.ofText_injective same⟩
  · obtain ⟨s, hs, -, -, same⟩ := SourcePatterns.mem_excludes_iff.1 h
    exact ⟨s, hs, Pattern.ofText_injective same⟩

/-- **What accepted source patterns select.** Let the patterns be accepted. They include nothing if
and only if each of them without an exclamation mark in front is, once trimmed, empty or a `./`
alone or has an exclamation mark in front. A pattern that leads up is read only from one with white
space around it. So trimmed patterns, none of them empty or a `./` alone, include something and lead
nowhere up. -/
theorem accepted_patterns (accepted : sourceFaults patterns = []) :
    let p := SourcePatterns.ofTexts patterns
    (p.includes = [] ↔ ∀ s ∈ patterns, startsWith "!" s = false →
      startsWith "!" (strip s) = true ∨ strip s ∈ ["", "./", ".\\"]) ∧
    (∀ body, Pattern.ofText body ∈ p.includes ++ p.excludes → ".." ∈ split '/' body →
      ∃ s ∈ patterns, (ofText s).body = body ∧ ¬Trimmed s) ∧
    ((∀ s ∈ patterns, Trimmed s ∧ s ∉ ["", "./", ".\\"]) →
      p.includes ≠ [] ∧
      ∀ body, Pattern.ofText body ∈ p.includes ++ p.excludes → ".." ∉ split '/' body) := by
  intro p
  obtain ⟨⟨s₀, listed, positive⟩, straight⟩ := sourceFaults_eq_nil_iff.1 accepted
  have upwards (body : String) (compiled : Pattern.ofText body ∈ p.includes ++ p.excludes)
      (dots : ".." ∈ split '/' body) : ∃ s ∈ patterns, (ofText s).body = body ∧ ¬Trimmed s := by
    obtain ⟨s, hs, rfl⟩ := exists_of_compiled compiled
    refine ⟨s, hs, rfl, fun trimmed => straight s hs ?_⟩
    have there := dots_of_body dots
    rwa [trimmed] at there
  refine ⟨includes_eq_nil_iff, upwards, fun plain => ⟨fun none => ?_, fun body compiled dots => ?_⟩⟩
  · obtain ⟨trimmed, given⟩ := plain s₀ listed
    have lost := includes_eq_nil_iff.1 none s₀ listed positive
    rw [trimmed] at lost
    rcases lost with mark | empty
    · simp [positive] at mark
    · exact given empty
  · obtain ⟨s, hs, -, untrimmed⟩ := upwards body compiled dots
    exact untrimmed (plain s hs).1

theorem accepted_patterns_tests :
    let patterns := ["src/**/*.py", ".\\docs\\*.py", "!**/test_*.py"]
    let p := SourcePatterns.ofTexts patterns
    sourceFaults patterns = [] ∧ (∀ s ∈ patterns, Trimmed s ∧ s ∉ ["", "./", ".\\"]) ∧
    p.includes ≠ [] ∧
    ∀ body, Pattern.ofText body ∈ p.includes ++ p.excludes → ".." ∉ split '/' body := by
  intro patterns p
  have accepted : sourceFaults patterns = [] := by decide +kernel
  have plain : ∀ s ∈ patterns, Trimmed s ∧ s ∉ ["", "./", ".\\"] := by decide +kernel
  exact ⟨accepted, plain, (accepted_patterns accepted).2.2 plain⟩

/-- A pattern with a blank in front of its exclamation mark is accepted as one that includes and
read as one that excludes; a blank in front of a pattern hides that it leads up. -/
theorem not_forall_accepted_patterns :
    (¬∀ patterns, sourceFaults patterns = [] →
      (SourcePatterns.ofTexts patterns).includes ≠ []) ∧
    ¬∀ patterns, sourceFaults patterns = [] → ∀ body,
      Pattern.ofText body ∈ (SourcePatterns.ofTexts patterns).includes ++
        (SourcePatterns.ofTexts patterns).excludes → ".." ∉ split '/' body := by
  refine ⟨fun all => ?_, fun all => ?_⟩
  · exact all [" !**/test_*.py"] (by decide +kernel) (by decide +kernel)
  · exact all [" ../shared/*.py"] (by decide +kernel) "../shared/*.py" (by decide +kernel)
      (by decide +kernel)

end ContainerConfig

end ArchModel
