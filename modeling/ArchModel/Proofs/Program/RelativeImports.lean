import ArchModel.Proofs.Program.NameWalk

/-!
# Imports from packages around a module

An import with dots in front of its name goes up from the package that holds the module, one level
for each dot behind the first.

* `packageParts` are the names of that package, `ImportTables.Extends` says what an import of
  members adds to the tables.
* `packageAbove_of_le` and `packageAbove_of_lt`: levels that lead out of the top count anew from the
  package itself, once. `levelWithin` is the level that counts.
* **`ImportTables.add_relative`** puts this together. An import that leaves the top may lead to a
  class (`Program.not_forall_leaving`).
-/

namespace ArchModel

open Source Text

/-! ## Going up -/

/-- The names of the package that holds a module; a package holds itself. -/
def packageParts (name : String) (isPackage : Bool) : List String :=
  if isPackage then split '.' name else (split '.' name).dropLast

/-- The level that counts for one that leads out of the top of a package of some names: it is read
with one dot less for each of the names, or without dots if it is too great for that as well. -/
def levelWithin (names level : Nat) : Nat :=
  if level ≤ names + 1 then level else if 2 * names < level then 0 else level - names

/-- An import with the level that counts for it. -/
def importWithin (names : Nat) : Import → Import
  | .members module members level => .members module members (levelWithin names level)
  | i => i

section above

variable {package : List String} {levels : Nat}

theorem packageAbove_of_le (h : levels ≤ package.length) :
    packageAbove package levels = package.take (package.length - levels) := by
  rw [packageAbove, if_pos h]

theorem packageAbove_of_lt (h : package.length < levels) :
    packageAbove package levels = package.take (2 * package.length - levels) := by
  rw [packageAbove, if_neg (by omega)]
  congr 1
  omega

end above

section base

variable (name : String) (isPackage : Bool) (module : Option String)

theorem importBase?_succ (up : Nat) : importBase? name isPackage module (up + 1) =
    if packageAbove (packageParts name isPackage) up ++ module.toList = [] then none
    else some (join "." (packageAbove (packageParts name isPackage) up ++ module.toList)) := by
  rw [importBase?, if_neg (Nat.succ_ne_zero up)]
  unfold packageParts
  cases module <;> simp

/-- Levels that lead out of the top count anew. -/
theorem importBase?_levelWithin (level : Nat) :
    importBase? name isPackage module (levelWithin (packageParts name isPackage).length level) =
      importBase? name isPackage module level := by
  unfold levelWithin
  split
  · rfl
  · next leaving =>
    obtain ⟨up, rfl⟩ : ∃ up, level = up + 1 := ⟨level - 1, by omega⟩
    have lt : (packageParts name isPackage).length < up := by omega
    rw [importBase?_succ name isPackage module up, packageAbove_of_lt lt]
    split
    · next far =>
      have top : 2 * (packageParts name isPackage).length - up = 0 := by omega
      rw [top, List.take_zero]
      cases module <;> simp [importBase?, join]
    · next near =>
      have back : 2 * (packageParts name isPackage).length - up =
          (packageParts name isPackage).length - (up - (packageParts name isPackage).length) := by
        omega
      rw [back, ← packageAbove_of_le (by omega), ← importBase?_succ]
      congr 1
      omega

end base

namespace ImportTables

/-! ## Importing members -/

/-- An imported name stands under a key. -/
def Binds (key : String) (i : ImportName) : Prop := i.name ≠ "*" ∧ i.as.getD i.name = key

instance (key : String) : DecidablePred (Binds key) :=
  fun _ => inferInstanceAs (Decidable (_ ∧ _))

/-- The tables after names were imported from a module: under each key the last name that stands
there, and all names of the module as often as asked for. -/
structure Extends (after before : ImportTables) (base : String) (names : List ImportName) :
    Prop where
  get?_eq : ∀ key, after.names.get? key =
    ((names.filter (Binds key)).getLast?.map fun i => base ++ "." ++ i.name).or
      (before.names.get? key)
  stars_eq : after.stars = before.stars ++ (names.filter (·.name = "*")).map fun _ => base

theorem extends_foldl (t : ImportTables) (base : String) (names : List ImportName) :
    (names.foldl (addMember base) t).Extends t base names := by
  induction names using List.reverseRecOn with
  | nil => exact ⟨fun key => by simp, by simp⟩
  | append_singleton names i ih =>
    rw [List.foldl_append, List.foldl_cons, List.foldl_nil, addMember]
    by_cases all : i.name = "*"
    · rw [if_pos all]
      refine ⟨fun key => ?_, ?_⟩
      · have other : ¬Binds key i := fun h => h.1 all
        simpa [List.filter_append, other] using ih.get?_eq key
      · simp [ih.stars_eq, List.filter_append, all]
    · rw [if_neg all]
      refine ⟨fun key => ?_, ?_⟩
      · by_cases here : i.as.getD i.name = key
        · have own : Binds key i := ⟨all, here⟩
          simp [List.filter_append, own, here]
        · have other : ¬Binds key i := fun h => here h.2
          simpa [List.filter_append, other, here] using ih.get?_eq key
      · simpa [List.filter_append, all] using ih.stars_eq

/-! ## One import -/

section add

variable {name : String} {isPackage : Bool} {module : Option String} {names : List ImportName}
  {up : Nat} {base : List String}
  (h : packageAbove (packageParts name isPackage) up ++ module.toList = base)

include h

/-- An import without a base adds nothing. -/
theorem add_of_base_eq_nil (none : base = []) (t : ImportTables) :
    t.add name isPackage (.members module names (up + 1)) = t := by
  rw [add, importBase?_succ, h, if_pos none]

theorem add_of_base_ne_nil (some : base ≠ []) (t : ImportTables) :
    (t.add name isPackage (.members module names (up + 1))).Extends t (join "." base) names := by
  rw [add, importBase?_succ, h, if_neg some]
  exact extends_foldl t _ names

/-- An import changes nothing if it has no base or no names. -/
theorem forall_add_eq_iff :
    (∀ t : ImportTables, t.add name isPackage (.members module names (up + 1)) = t) ↔
      base = [] ∨ names = [] := by
  constructor
  · intro same
    by_contra! both
    obtain ⟨i, names, rfl⟩ := List.exists_cons_of_ne_nil both.2
    have added : (add name isPackage {} (.members module (i :: names) (up + 1))).Extends {}
        (join "." base) (i :: names) := add_of_base_ne_nil h both.1 {}
    rw [same] at added
    by_cases all : i.name = "*"
    · simpa [all] using added.stars_eq
    · have found := added.get?_eq (i.as.getD i.name)
      have own : Binds (i.as.getD i.name) i := ⟨all, rfl⟩
      simp [own, List.getLast?_cons] at found
  · rintro (none | rfl) t
    · exact add_of_base_eq_nil h none t
    · rw [add]
      cases importBase? name isPackage module (up + 1) <;> rfl

end add

/-- The tables of a module are those of its imports with the levels that count for them. -/
theorem importTables_eq (name : String) (isPackage : Bool) (body : List Stmt) :
    importTables name isPackage body =
      ((importsOf body).map (importWithin (packageParts name isPackage).length)).foldl
        (ImportTables.add name isPackage) {} := by
  have one (t : ImportTables) (i : Import) :
      t.add name isPackage (importWithin (packageParts name isPackage).length i) =
        t.add name isPackage i := by
    cases i with
    | modules names => rfl
    | members module names level =>
      rw [importWithin, add, add, importBase?_levelWithin]
  rw [importTables, List.foldl_map]
  simp only [one]

/-- **An import with dots** adds members of the module whose name is made of the names that the
levels leave of the package and of the name behind the dots; it adds nothing if that is empty. Where
the levels lead out of the top, those that are left over are counted from the package itself. Such
an import counts like one with fewer dots; it adds nothing only if it has no names, or no name
behind the dots and levels that lead out a second time. -/
theorem add_relative (name : String) (isPackage : Bool) :
    let package := packageParts name isPackage
    (∀ module names up (t : ImportTables), up ≤ package.length →
      let base := package.take (package.length - up) ++ module.toList
      let after := t.add name isPackage (.members module names (up + 1))
      (base = [] → after = t) ∧ (base ≠ [] → after.Extends t (join "." base) names)) ∧
    (∀ module names up (t : ImportTables), package.length < up →
      let base := package.take (2 * package.length - up) ++ module.toList
      let after := t.add name isPackage (.members module names (up + 1))
      (base = [] → after = t) ∧ (base ≠ [] → after.Extends t (join "." base) names)) ∧
    (∀ module names up, package.length < up →
      ((∀ t : ImportTables, t.add name isPackage (.members module names (up + 1)) = t) ↔
        names = [] ∨ module = none ∧ 2 * package.length ≤ up)) ∧
    ∀ body, importTables name isPackage body =
      ((importsOf body).map (importWithin package.length)).foldl (add name isPackage) {} := by
  intro package
  refine ⟨fun module names up t within => ?_, fun module names up t leaving => ?_,
    fun module names up leaving => ?_, importTables_eq name isPackage⟩
  · have base := packageAbove_of_le within
    exact ⟨fun none => add_of_base_eq_nil (by rw [base]) none t,
      fun some => add_of_base_ne_nil (by rw [base]) some t⟩
  · have base := packageAbove_of_lt leaving
    exact ⟨fun none => add_of_base_eq_nil (by rw [base]) none t,
      fun some => add_of_base_ne_nil (by rw [base]) some t⟩
  · have front : package.take (2 * package.length - up) = [] ↔ 2 * package.length ≤ up := by
      rw [← List.length_eq_zero_iff, List.length_take]
      omega
    have behind : module.toList = [] ↔ module = none := by cases module <;> simp
    rw [forall_add_eq_iff rfl, packageAbove_of_lt leaving, List.append_eq_nil_iff, front, behind,
      or_comm, and_comm]

/-- Going up once and going up three times from a package of two names is the same. -/
theorem add_relative_shop :
    1 ≤ (packageParts "shop.orders.api" false).length ∧
    (packageParts "shop.orders.api" false).length < 3 ∧
    ∀ levels ∈ [2, 4],
      ((add "shop.orders.api" false {} (.members (some "billing") [⟨"Invoices", none⟩]
        levels)).names.get? "Invoices") = some "shop.billing.Invoices" := by
  have within : 1 ≤ (packageParts "shop.orders.api" false).length := by decide +kernel
  have leaves : (packageParts "shop.orders.api" false).length < 3 := by decide +kernel
  have front : (packageParts "shop.orders.api" false) = ["shop", "orders"] := by decide +kernel
  obtain ⟨near, far, -⟩ := add_relative "shop.orders.api" false
  have once := (near (some "billing") [⟨"Invoices", none⟩] 1 {} within).2 (by simp)
  have thrice := (far (some "billing") [⟨"Invoices", none⟩] 3 {} leaves).2 (by simp)
  refine ⟨within, leaves, ?_⟩
  simp only [List.forall_mem_cons]
  refine ⟨?_, ?_, by simp⟩
  · rw [once.get?_eq, front]
    decide +kernel
  · rw [thrice.get?_eq, front]
    decide +kernel

end ImportTables

namespace Program

/-! ## An import that leaves the top -/

namespace Shop

def apiPath : Path := ⟨["shop", "orders", "api.py"]⟩

def billingPath : Path := ⟨["shop", "billing.py"]⟩

/-- The import goes up three times. -/
def leaving : Import := .members (some "billing") [⟨"Invoices", none⟩] 4

def billing : SourceModule :=
  .ofBody "shop.billing" false billingPath [.classDef ⟨"Invoices", 1, [], []⟩]

/-- The package of the module has two names. -/
def api : SourceModule := .ofBody "shop.orders.api" false apiPath [.importing leaving]

def program : Program := (({ root := some {} } : Program).store default billing).store default api

theorem indexed : program.Indexed :=
  .file default apiPath _ (by decide +kernel)
    (.file default billingPath _ (by decide +kernel) (.new (some {})))

theorem api_mem : api ∈ program.modules.values := List.mem_cons_of_mem _ List.mem_cons_self

end Shop

/-- An import that leaves the top of its package may change the tables, and may lead to a class. -/
theorem not_forall_leaving :
    (¬∀ (name : String) (isPackage : Bool) (module : Option String) (names : List ImportName)
      (up : Nat) (t : ImportTables), (packageParts name isPackage).length < up →
      t.add name isPackage (.members module names (up + 1)) = t) ∧
    ¬∀ (p : Program) (name : String) (isPackage : Bool) (path : Path) (module : Option String)
      (names : List ImportName) (up : Nat), p.Indexed →
      SourceModule.ofBody name isPackage path [.importing (.members module names (up + 1))] ∈
        p.modules.values →
      (packageParts name isPackage).length < up →
      ∀ e, p.resolveExpr? (.ofBody name isPackage path
        [.importing (.members module names (up + 1))]) e = none := by
  have leaves : (packageParts "shop.orders.api" false).length < 3 := by decide +kernel
  constructor
  · intro all
    have same := all "shop.orders.api" false (some "billing") [⟨"Invoices", none⟩] 3 {} leaves
    have found := congrArg (fun t => t.names.get? "Invoices") same
    revert found
    decide +kernel
  · intro all
    have nothing : Shop.program.resolveExpr? Shop.api (.name "Invoices") = none :=
      all Shop.program "shop.orders.api" false Shop.apiPath (some "billing") [⟨"Invoices", none⟩] 3
        Shop.indexed Shop.api_mem leaves (.name "Invoices")
    rw [resolveExpr?_of_dotted Shop.program Shop.api rfl] at nothing
    revert nothing
    decide +kernel

end Program

end ArchModel
