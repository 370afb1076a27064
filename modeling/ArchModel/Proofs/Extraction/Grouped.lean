import ArchModel.Config.Container
import ArchModel.Proofs.Extraction.Declared
import ArchModel.Proofs.Group.Placement
import ArchModel.Proofs.Tag.Arguments
import ArchModel.Proofs.Tag.Heads

/-!
# Groups that classes can name

Configurations allow more paths of groups than classes can name: a path that begins with a hyphen
reads as a parameter of the tag, and white space around a path is lost.

* `ClassInfo.group_eq_some_iff`: the group that a class is put in by one line.
* `ClassInfo.NamesGroup` are the classes whose docstring has a line for the component and one for
  the group, and nothing else.
* **`Program.accepted_in_group_iff`**: such a class gives a component of the configured group, which
  has its place in the tree, if and only if the path is trimmed and begins with no hyphen.
-/

namespace ArchModel

open Text Source

/-! ## Reading the tag of a group -/

namespace Schema

/-- A text without bars and quotes is one argument. -/
theorem readArgText_of_plain {arg : String} (trimmed : Trimmed arg) (hne : arg ≠ "")
    (bar : '|' ∉ arg.toList) (quote : '"' ∉ arg.toList) : readArgText arg = [arg] := by
  have own : strip arg = arg := trimmed
  have one : join " | " [arg] = arg := by simp [join]
  have unquoted : unquote arg = arg :=
    unquote_eq_self_iff.2 fun quotes => quote (List.mem_of_head? quotes.2.1)
  have parts : readArgText (strip (join " | " [arg])) = [arg].map fun a => unquote (strip a) :=
    readArgText_join (by simp) (by simpa using bar) (by rwa [one, own])
  rwa [one, own, List.map_singleton, own, unquoted] at parts

theorem checkArgs_group {arg : String} (hne : arg ≠ "") :
    Schema.group.checkArgs [arg] = .ok () := by
  refine checkArgs_eq_ok_iff.2 ⟨Nat.le_refl 1, fun i spec hi _ => ?_⟩
  have first : i < 1 := (List.getElem?_eq_some_iff.1 hi).1
  obtain rfl := Nat.lt_one_iff.1 first
  simpa using hne

/-- The content of a group tag is read as a path, unless it is blank or reads as a parameter. -/
theorem parse_group {content path : String}
    (read : contentLines content = if strip path = "" then [] else [strip path])
    (bar : '|' ∉ path.toList) (quote : '"' ∉ path.toList) :
    Schema.group.parse content =
      if strip path = "" ∨ startsWith "-" (strip path) = true then .error (.missingArg 0)
      else .ok { args := [strip path] } := by
  by_cases blank : strip path = ""
  · rw [if_pos blank] at read
    have lines : contentLines content = [] ++ [] := read
    rw [if_pos (.inl blank), parse_of_content lines (by simp) (by simp)]
    rfl
  · rw [if_neg blank] at read
    by_cases dash : startsWith "-" (strip path) = true
    · have lines : contentLines content = [] ++ [strip path] := read
      rw [if_pos (.inr dash), parse_of_content lines (by simp) (by simpa using dash)]
      rfl
    · have lines : contentLines content = [strip path] ++ [] := read
      have inside : (strip path).toList ⊆ path.toList := by
        rw [toList_strip]
        exact (isInfix_stripChars _).subset
      have args : readArgText (join " " [strip path]) = [strip path] := by
        rw [show join " " [strip path] = strip path by simp [join]]
        exact readArgText_of_plain (trimmed_strip path) blank (fun hm => bar (inside hm))
          fun hm => quote (inside hm)
      rw [if_neg (by simp [blank, dash]), parse_of_content lines (by simpa using dash) (by simp),
        args, checkArgs_group blank]
      rfl

end Schema

namespace ClassInfo

variable {c : ClassInfo} {rules : GroupRules}

/-- The group that a class is put in by the content of a tag. -/
theorem group_eq_some_iff {block : TagBlock} (first : (c.tags.named groupTag).head? = some block)
    {path : String}
    (read : Schema.contentLines block.content = if strip path = "" then [] else [strip path])
    (bar : '|' ∉ path.toList) (quote : '"' ∉ path.toList) {group : String} :
    c.group rules = .ok (some group) ↔ (strip path ≠ "" ∧ startsWith "-" (strip path) = false) ∧
      group = strip path ∧ rules.check group = .ok () := by
  have parsed := Schema.parse_group read bar quote
  unfold ClassInfo.group
  rw [first]
  dsimp only
  by_cases lost : strip path = "" ∨ startsWith "-" (strip path) = true
  · rw [parsed, if_pos lost]
    refine iff_of_false (fun h => by cases h) fun h => ?_
    rcases lost with blank | dash
    · exact h.1.1 blank
    · simp [h.1.2] at dash
  · rw [parsed, if_neg lost]
    rw [not_or, Bool.not_eq_true] at lost
    rw [and_iff_right lost]
    have arg : Tag.arg { args := [strip path] } 0 = some (strip path) := by simp [Tag.arg, lost.1]
    have own : strip (strip path) = strip path := trimmed_strip path
    simp only [Except.mapError, bind, Except.bind, arg, own]
    cases checked : rules.check (strip path) with
    | error e =>
      refine iff_of_false (fun h => by cases h) ?_
      rintro ⟨rfl, ok⟩
      rw [checked] at ok
      cases ok
    | ok _ =>
      constructor
      · intro h
        obtain rfl := Option.some.inj (Except.ok.inj h)
        exact ⟨rfl, checked⟩
      · rintro ⟨rfl, -⟩
        rfl

/-! ## Classes that name a group -/

/-- The lines of the docstring of a class. -/
def docLines (c : ClassInfo) : List String :=
  (docstring? c.decl.body).elim [] fun x => lines (dedent x.1)

/-- A line makes a class a component of a name. -/
structure IsComponentLine (c : ClassInfo) (line name : String) : Prop where
  /-- The line is a head, and the rest of it can be read. -/
  read : ∃ rest tag, Docstring.head? (strip line) = some (componentTag, rest) ∧
    Schema.component.parse rest = .ok tag ∧ strip ((tag.arg 0).getD c.decl.name) = name
  named : isComponentName name = true
  /-- No multi-line value is open behind the line. -/
  closed : countSeq multiline (strip line) % 2 = 0

/-- The docstring of a class makes it a component of a name, names a group, and says nothing
else. -/
def NamesGroup (c : ClassInfo) (name path : String) : Prop :=
  ∃ line, c.docLines = [line, "@" ++ groupTag ++ " " ++ path] ∧ c.IsComponentLine line name

end ClassInfo

@[simp] theorem TagBlock.content_singleton (name : String) (offset : Nat) (text : String) :
    TagBlock.content ⟨name, offset, [text]⟩ = text := by
  simp [TagBlock.content, join]

/-- A docstring of two heads has two blocks, if no value is open behind the first. -/
theorem Docstring.blocks_split_of_heads {text first second : String} {x y : String × String}
    (written : lines (dedent text) = [first, second]) (one : head? (strip first) = some x)
    (closed : countSeq multiline (strip first) % 2 = 0) (two : head? (strip second) = some y) :
    (split text).blocks = [⟨x.1, 0, [x.2]⟩, ⟨y.1, 1, [y.2]⟩] := by
  simp [split, written, Splitter.step, Splitter.toggle, Splitter.finish, one, closed, two]

namespace ClassInfo

variable {c : ClassInfo} {rules : GroupRules} {name path : String}

theorem NamesGroup.exists_blocks (h : c.NamesGroup name path) : ∃ rest tag path',
    c.tags.docstring.blocks = [⟨componentTag, 0, [rest]⟩, ⟨groupTag, 1, [path']⟩] ∧
      Schema.component.parse rest = .ok tag ∧ strip ((tag.arg 0).getD c.decl.name) = name ∧
      isComponentName name = true ∧
      Schema.contentLines path' = if strip path = "" then [] else [strip path] := by
  obtain ⟨line, written, ⟨rest, tag, head, parsed, named⟩, valid, closed⟩ := h
  have tagged : groupTag ≠ "" ∧
      groupTag.toList.all (fun c => isWord c && !isBlank c) = true := by decide
  obtain ⟨path', head', same, sub⟩ := Docstring.exists_head?_strip tagged.1 tagged.2 path
  unfold docLines at written
  cases documented : docstring? c.decl.body with
  | none =>
    rw [documented] at written
    cases written
  | some x =>
    rw [documented, Option.elim_some] at written
    have hne : x.1 ≠ "" := by
      intro empty
      rw [empty] at written
      cases written
    have tags : c.tags.docstring = .split x.1 := by
      simp [ClassInfo.tags, DeclaredTags.ofBody, documented, hne]
    have oneLine : OneLine path := by
      have whole : OneLine ("@" ++ groupTag ++ " " ++ path) :=
        oneLine_of_mem_lines (s := dedent x.1) (by simp [written])
      exact whole.of_subset fun c hc => by simp [hc]
    refine ⟨rest, tag, path', ?_, parsed, named, valid, ?_⟩
    · rw [tags]
      exact Docstring.blocks_split_of_heads written head closed head'
    · rw [Schema.contentLines_of_oneLine (oneLine.of_subset sub), same]

/-- Such a class is put in the group if the path is read as it is and permitted. -/
theorem NamesGroup.group_iff (h : c.NamesGroup name path) (rules : GroupRules)
    (bar : '|' ∉ path.toList) (quote : '"' ∉ path.toList) :
    c.group rules = .ok (some path) ↔
      (Trimmed path ∧ path ≠ "" ∧ startsWith "-" path = false) ∧ rules.check path = .ok () := by
  obtain ⟨rest, tag, path', blocks, -, -, -, read⟩ := h.exists_blocks
  have second : (c.tags.named groupTag).head? = some ⟨groupTag, 1, [path']⟩ := by
    rw [DeclaredTags.named, blocks]
    rfl
  rw [group_eq_some_iff second (by rwa [TagBlock.content_singleton]) bar quote, Trimmed,
    eq_comm (a := path)]
  constructor
  · rintro ⟨⟨kept, noDash⟩, own, checked⟩
    rw [own] at kept noDash
    exact ⟨⟨own, kept, noDash⟩, checked⟩
  · rintro ⟨⟨own, kept, noDash⟩, checked⟩
    rw [own]
    exact ⟨⟨kept, noDash⟩, rfl, checked⟩

/-- It then gives a component of the name. -/
theorem NamesGroup.exists_component (h : c.NamesGroup name path)
    (grouped : c.group rules = .ok (some path)) :
    ∃ component, c.component rules = .ok (some component) ∧ component.name = name ∧
      component.group = some path := by
  obtain ⟨rest, tag, path', blocks, parsed, rfl, valid, -⟩ := h.exists_blocks
  have first : (c.tags.named componentTag).head? = some ⟨componentTag, 0, [rest]⟩ := by
    rw [DeclaredTags.named, blocks]
    rfl
  unfold ClassInfo.component
  rw [first]
  simp [parsed, valid, grouped, Except.mapError, bind, Except.bind, pure, Except.pure]

end ClassInfo

/-! ## Outcomes of classes -/

namespace Program

variable {p : Program} {rules : GroupRules} {c : ClassInfo}

theorem outcomesFrom_append (earlier : List Component) (cs ds : List ClassInfo) :
    outcomesFrom rules earlier (cs ++ ds) = outcomesFrom rules earlier cs ++ outcomesFrom rules
      (earlier ++ (outcomesFrom rules earlier cs).filterMap (·.component?)) ds := by
  induction cs generalizing earlier with
  | nil => simp [outcomesFrom]
  | cons c cs ih =>
    rw [List.cons_append, outcomesFrom, outcomesFrom, ih, List.cons_append, List.filterMap_cons]
    cases (c.outcome rules earlier).component? <;> simp

/-- What becomes of a class is what it gives where some components were accepted before. -/
theorem outcome_of_mem_zip {earlier : List Component} {cs : List ClassInfo} {o : ClassOutcome}
    (h : (c, o) ∈ cs.zip (outcomesFrom rules earlier cs)) :
    ∃ earlier', o = c.outcome rules earlier' := by
  induction cs generalizing earlier with
  | nil => cases h
  | cons d cs ih =>
    rw [outcomesFrom, List.zip_cons_cons] at h
    rcases List.mem_cons.1 h with same | h
    · obtain ⟨rfl, rfl⟩ := Prod.mk.inj same
      exact ⟨earlier, rfl⟩
    · exact ih h

/-- An accepted component has the group of its class. -/
theorem group_of_mem_classOutcomes {component : Component} {errors : List DeclarationError}
    (h : (c, .accepted component errors) ∈ p.classOutcomes rules) :
    c.group rules = .ok component.group := by
  obtain ⟨earlier, same⟩ := outcome_of_mem_zip h
  have given : (c.outcome rules earlier).component? = some component := by
    rw [← same]
    rfl
  obtain ⟨read, found, rfl, -⟩ := ClassInfo.of_component?_outcome given
  have grouped : c.group rules = .ok read.group := ClassInfo.group_of_component found
  exact grouped

/-- A component is accepted if no class before has one of the name. -/
theorem exists_accepted {before after : List ClassInfo}
    (classes : p.allClasses = before ++ c :: after)
    {read : Component} (found : c.component rules = .ok (some read))
    (fresh : ∀ d ∈ before, ∀ e, d.component rules = .ok (some e) → e.name ≠ read.name) :
    ∃ component errors, (c, .accepted component errors) ∈ p.classOutcomes rules ∧
      component.name = read.name ∧ component.group = read.group := by
  let earlier := (outcomesFrom rules [] before).filterMap (·.component?)
  have free : earlier.find? (·.name = read.name) = none := by
    rw [List.find?_eq_none]
    intro e he
    obtain ⟨d, hd, e', found', rfl⟩ := mem_outcomesFrom he
    simpa using fresh d hd e' found'
  have outcome : c.outcome rules ([] ++ earlier) = .accepted
      { read with relations := RelationTag.relations (c.relations read.name) }
      (RelationTag.errors (c.relations read.name)) := by
    simp only [ClassInfo.outcome, found, List.nil_append, free]
  have listed : (c, c.outcome rules ([] ++ earlier)) ∈ p.classOutcomes rules := by
    rw [classOutcomes, extract, classes, outcomesFrom_append, outcomesFrom,
      List.zip_append (length_outcomesFrom rules [] before).symm, List.zip_cons_cons]
    exact List.mem_append_right _ List.mem_cons_self
  rw [outcome] at listed
  exact ⟨_, _, listed, rfl, rfl⟩

theorem mem_extract_of_mem_classOutcomes {component : Component} {errors : List DeclarationError}
    (h : (c, .accepted component errors) ∈ p.classOutcomes rules) :
    component ∈ (p.extract rules).components := by
  rw [← (p.classOutcomes_complete rules).2]
  exact List.mem_filterMap.2 ⟨_, h, rfl⟩

end Program

/-! ## The place of a group -/

/-- A component of a configured path is in the group that was made of the path. -/
theorem exists_at?_of_mem_extract {p : Program} {g : Groups} (sound : g.faults = [])
    {component : Component} (hc : component ∈ (p.extract ⟨g, .path⟩).components) {path : String}
    (configured : path ∈ g.paths) (own : component.group = some path) :
    ∃ tree, buildGroups (p.extract ⟨g, .path⟩).components g .path = .ok tree ∧
      ∃ x ∈ g.walk, join "/" x.1 = path ∧ ∃ node, GroupNode.at? x.1 tree = some node ∧
        node.path = path ∧ component.name ∈ node.components := by
  obtain ⟨x, hx, rfl⟩ := Groups.mem_paths_iff.1 configured
  have permits : ∀ c ∈ (p.extract ⟨g, .path⟩).components, GroupRules.Permits ⟨g, .path⟩ c :=
    fun c hc => Program.permits_of_mem_extract hc
  obtain ⟨s, settled, built⟩ := exists_buildGroups permits
  obtain ⟨node, found, inside⟩ := settled.grouped rfl component hc _ own
    (Groups.path_ne_empty_of_mem_walk sound hx)
  rw [Groups.split_join_of_mem_walk sound hx] at found
  refine ⟨_, built, x, hx, rfl, node, ?_, settled.paths rfl x.1 node found, inside⟩
  -- The node in front has a name that no group may have.
  obtain ⟨name, rest, chain⟩ := List.exists_cons_of_ne_nil (Groups.ne_nil_of_mem_walk hx)
  have other : (GroupNode.noGroup == name) = false := by
    refine beq_eq_false_iff_ne.2 fun same => ?_
    have valid := Groups.isGroupName_of_mem_walk sound hx name (by simp [chain])
    rw [← same] at valid
    exact absurd valid (by decide)
  rw [chain] at found ⊢
  rw [GroupNode.at?, List.find?_cons_of_neg]
  · exact found
  · simpa [GroupNode.name] using other

theorem ContainerConfig.groups_faultless {config : ContainerConfig}
    (accepted : config.check = .ok ()) :
    config.groups.faults = [] := by
  unfold check at accepted
  split at accepted
  · next none =>
    have none := (List.append_eq_nil_iff.1 (List.append_eq_nil_iff.1 none).1).1
    exact List.map_eq_nil_iff.1 none
  · cases accepted

/-- **A class can name a configured group** by a line with its path if and only if the path is
trimmed and begins with no hyphen: it then gives a component of this group, and the component is
placed in the group that was made of the path. -/
theorem Program.accepted_in_group_iff {config : ContainerConfig} (accepted : config.check = .ok ())
    {path : String} (configured : path ∈ config.groups.paths) {p : Program}
    {before after : List ClassInfo} {c : ClassInfo} (classes : p.allClasses = before ++ c :: after)
    {name : String} (names : c.NamesGroup name path)
    (fresh : ∀ d ∈ before, ∀ e,
      d.component ⟨config.groups, .path⟩ = .ok (some e) → e.name ≠ name) :
    (∃ component errors,
      (c, .accepted component errors) ∈ p.classOutcomes ⟨config.groups, .path⟩ ∧
        component.name = name ∧ component.group = some path ∧
        ∃ tree, buildGroups (p.extract ⟨config.groups, .path⟩).components config.groups .path =
            .ok tree ∧
          ∃ x ∈ config.groups.walk, join "/" x.1 = path ∧
            ∃ node, GroupNode.at? x.1 tree = some node ∧ node.path = path ∧
              name ∈ node.components) ↔
      Trimmed path ∧ startsWith "-" path = false := by
  have sound := config.groups_faultless accepted
  obtain ⟨x, hx, whole⟩ := Groups.mem_paths_iff.1 configured
  have chars {c : Char} (hc : c ∈ path.toList) : isGroupChar c = true ∨ c = '\n' ∨ c = '/' :=
    Groups.isGroupChar_of_mem_path sound hx (by rwa [whole])
  have bar : '|' ∉ path.toList := fun hm => absurd (chars hm) (by decide)
  have quote : '"' ∉ path.toList := fun hm => absurd (chars hm) (by decide)
  have readable := names.group_iff ⟨config.groups, .path⟩ bar quote
  constructor
  · rintro ⟨component, errors, listed, named, grouped, -⟩
    have read : c.group ⟨config.groups, .path⟩ = .ok (some path) := by
      rw [← grouped]
      exact group_of_mem_classOutcomes listed
    obtain ⟨trimmed, -, noDash⟩ := (readable.1 read).1
    exact ⟨trimmed, noDash⟩
  · rintro ⟨trimmed, noDash⟩
    have segments : ∀ name ∈ split '/' path, isGroupName name = true := by
      rw [← whole, Groups.split_join_of_mem_walk sound hx]
      exact Groups.isGroupName_of_mem_walk sound hx
    have checked : GroupRules.check ⟨config.groups, .path⟩ path = .ok () :=
      (GroupRules.check_path_iff rfl).2 ⟨segments, .inr configured⟩
    have hne : path ≠ "" := whole ▸ Groups.path_ne_empty_of_mem_walk sound hx
    obtain ⟨read, found, rfl, own⟩ :=
      names.exists_component (readable.2 ⟨⟨trimmed, hne, noDash⟩, checked⟩)
    obtain ⟨component, errors, listed, named, grouped⟩ := exists_accepted classes found fresh
    have placed := exists_at?_of_mem_extract sound (mem_extract_of_mem_classOutcomes listed)
      configured (grouped.trans own)
    rw [named] at placed
    exact ⟨component, errors, listed, named, grouped.trans own, placed⟩

/-! ### One class and its group -/

namespace Invoicing

def config (groups : Groups) : ContainerConfig where
  name := "invoicing"
  groups := groups

/-- A group within another one. -/
def nested : Groups where
  levels := #[[("Business", 1)], [("Order Processing", 2)], []]

/-- A group whose name begins with a hyphen. -/
def hyphened : Groups where
  levels := #[[("-legacy", 1)], []]

/-- A class that names a group. -/
def invoices (group : String) : ClassInfo where
  id := ⟨"app", "Invoices"⟩
  path := ⟨["project", "app.py"]⟩
  decl := ⟨"Invoices", 1, [], [.expr (.text ("@c4Component\n@c4Group " ++ group)) 2]⟩
  methods := ∅

/-- The program of this class. -/
def program (group : String) : Program :=
  ({} : Program).store default
    (.ofBody "app" false (invoices group).path [.classDef (invoices group).decl])

theorem allClasses_program (group : String) : (program group).allClasses = [invoices group] := rfl

/-- The class declares a component and names the group, whatever the group is. -/
theorem isComponentLine (group : String) :
    (invoices group).IsComponentLine "@c4Component" "Invoices" := by
  refine ⟨⟨"", {}, by decide +kernel, by decide +kernel, ?_⟩, by decide +kernel, by decide +kernel⟩
  show strip "Invoices" = "Invoices"
  decide +kernel

end Invoicing

open Invoicing in
/-- A class in a group within another one. -/
theorem Program.accepted_in_group_iff_nested :
    ∃ component errors, (invoices "Business/Order Processing", .accepted component errors) ∈
        (program "Business/Order Processing").classOutcomes ⟨nested, .path⟩ ∧
      component.name = "Invoices" ∧ component.group = some "Business/Order Processing" ∧
      ∃ tree, buildGroups ((program "Business/Order Processing").extract ⟨nested, .path⟩).components
          nested .path = .ok tree ∧
        ∃ x ∈ nested.walk, join "/" x.1 = "Business/Order Processing" ∧
          ∃ node, GroupNode.at? x.1 tree = some node ∧ node.path = "Business/Order Processing" ∧
            "Invoices" ∈ node.components := by
  have accepted : (config nested).check = .ok () := rfl
  have configured : "Business/Order Processing" ∈ (config nested).groups.paths := by
    decide +kernel
  have names : (invoices "Business/Order Processing").NamesGroup "Invoices"
      "Business/Order Processing" := ⟨_, by decide +kernel, isComponentLine _⟩
  have classes : (program "Business/Order Processing").allClasses =
      [] ++ invoices "Business/Order Processing" :: [] := allClasses_program _
  have usable := accepted_in_group_iff accepted configured classes names (by simp)
  exact usable.2 ⟨by decide +kernel, by decide +kernel⟩

open Invoicing in
/-- Not every configured group can be named: a hyphen in front of the path makes it a parameter. -/
theorem Program.not_forall_accepted_in_group :
    ¬∀ (config : ContainerConfig) (path : String) (p : Program) (c : ClassInfo),
      config.check = .ok () → path ∈ config.groups.paths → c ∈ p.allClasses →
      c.docLines = ["@c4Component", "@c4Group " ++ path] →
      ∃ component ∈ (p.extract ⟨config.groups, .path⟩).components,
        component.group = some path := by
  intro all
  have lines : (invoices "-legacy").docLines = ["@c4Component", "@c4Group " ++ "-legacy"] := by
    decide +kernel
  obtain ⟨component, hc, own⟩ := all (config hyphened) "-legacy" (program "-legacy")
    (invoices "-legacy") rfl (by decide +kernel)
    (by rw [allClasses_program]; exact List.mem_singleton_self _) lines
  obtain ⟨c, listed, read, found, rfl⟩ := exists_of_mem_extract hc
  rw [allClasses_program, List.mem_singleton] at listed
  subst listed
  have grouped : (invoices "-legacy").group ⟨(config hyphened).groups, .path⟩ =
      .ok read.group := ClassInfo.group_of_component found
  rw [show read.group = some "-legacy" from own] at grouped
  have names : (invoices "-legacy").NamesGroup "Invoices" "-legacy" :=
    ⟨_, lines, isComponentLine _⟩
  have readable := (names.group_iff _ (by decide) (by decide)).1 grouped
  exact absurd readable.1.2.2 (by decide +kernel)

end ArchModel
