import CommandConsole.Loading.Load
import CommandConsole.Proofs.Console.Dispatch
import CommandConsole.Proofs.Console.Permanence
import CommandConsole.Proofs.Text.Pieces

/-!
# What loading adds

An import comes out alike in all worlds and changes nothing but the row of modules that were
imported. So a package has the same commands whenever it is loaded, in the same order, and to load
it is to register these one after the other: those that are taken are added to the table, and they
are counted. When the package is loaded again, none of its commands is taken.

A module that cannot be imported ends the loading. What was registered until then stays.

Headlines:
* **`givesModule_importModule`**: to import a module is an import, and gives the module or fails.
* **`Installation.exists_loads`**: which modules are loaded is settled, and how that ends.
* **`Installation.Loads.registers`**: loading registers the commands of the modules in order.
* **`load_counts_growth`**: the table grows by what is counted, and by nothing the second time.
-/

namespace CommandConsole.Loading

open Effect Text

/-! ## Imports -/

/-- An effect comes to the same in all worlds, and changes nothing but the row of imports. -/
def IsImport {α : Type} (t : Effect α) (result : Except Failure α) : Prop :=
  ∀ w, ∃ imports, t.runIn w = (result, { w with journal.imports := imports })

namespace IsImport

variable {α β : Type}

theorem pure (a : α) : IsImport (pure a) (.ok a) :=
  fun w => ⟨w.journal.imports, runIn_pure a w⟩

theorem throw (f : Failure) : IsImport (throw f : Effect α) (.error f) :=
  fun w => ⟨w.journal.imports, runIn_throw f w⟩

theorem resume (result : Except Failure α) : IsImport (resume result) result :=
  fun w => ⟨w.journal.imports, runIn_resume result w⟩

theorem noteImport (name : String) : IsImport (noteImport name) (.ok ()) := by
  intro w
  have hrun : (Effect.noteImport name).runIn w = (.ok (), if w.journal.imports.contains name then w
      else { w with journal.imports := w.journal.imports ++ [name] }) := rfl
  rw [hrun]
  split
  · exact ⟨w.journal.imports, rfl⟩
  · exact ⟨_, rfl⟩

theorem bind {t : Effect α} {a : α} (ht : IsImport t (.ok a)) {next : α → Effect β}
    {result : Except Failure β} (hnext : IsImport (next a) result) :
    IsImport (t >>= next) result := by
  intro w
  obtain ⟨imports, hrun⟩ := ht w
  obtain ⟨imports', hrun'⟩ := hnext { w with journal.imports := imports }
  exact ⟨imports', (runIn_bind_of_ok hrun next).trans hrun'⟩

theorem bind_error {t : Effect α} {f : Failure} (ht : IsImport t (.error f))
    (next : α → Effect β) : IsImport (t >>= next) (.error f) := by
  intro w
  obtain ⟨imports, hrun⟩ := ht w
  exact ⟨imports, runIn_bind_of_error hrun next⟩

end IsImport

theorem isImport_importSource (path : List String) (source : Source) :
    IsImport (importSource path source) (Module.ofRecipes (dotted path)
      (if source.isPackage then some (directoryText path) else none) source.recipes) :=
  (IsImport.noteImport _).bind (.resume _)

theorem exists_isImport_isSearched (path : List String) (m : Module) (inner : List String) :
    ∃ result, IsImport (isSearched path m inner) result := by
  unfold isSearched
  split
  · exact ⟨_, .throw _⟩
  · exact ⟨_, .pure false⟩
  · rename_i e _ _
    cases e.items with
    | error f => exact ⟨_, (IsImport.resume (.error f)).bind_error _⟩
    | ok items => exact ⟨_, (IsImport.resume (.ok items)).bind (.pure _)⟩

/-- An import gives a module or fails. -/
def GivesModule (t : Effect (Option Module)) : Prop :=
  ∃ result : Except Failure Module, IsImport t (some <$> result)

theorem GivesModule.pure (m : Module) : GivesModule (pure (some m)) :=
  ⟨.ok m, .pure (some m)⟩

theorem GivesModule.throw (f : Failure) : GivesModule (throw f) :=
  ⟨.error f, .throw f⟩

theorem GivesModule.bind {α : Type} {t : Effect α} (ht : ∃ result, IsImport t result)
    {next : α → Effect (Option Module)} (hnext : ∀ a, GivesModule (next a)) :
    GivesModule (t >>= next) := by
  obtain ⟨f | a, ht⟩ := ht
  · exact ⟨.error f, ht.bind_error next⟩
  · obtain ⟨result, hresult⟩ := hnext a
    exact ⟨result, ht.bind hresult⟩

/-- To import the modules on a way gives the last of them. -/
theorem givesModule_importFrom (i : Installation) (path : List String) (outer : Option Module)
    (rest : List String) (last : outer.isSome = true ∨ rest ≠ []) :
    GivesModule (importFrom i path outer rest) := by
  induction rest generalizing path outer with
  | nil =>
    obtain ⟨m, rfl⟩ := Option.isSome_iff_exists.mp (last.resolve_right (not_not_intro rfl))
    exact .pure m
  | cons name rest ih =>
    rcases outer with _ | m
    on_goal 1 => refine .bind ⟨_, .pure true⟩ ?_
    on_goal 2 => refine .bind (exists_isImport_isSearched path m _) ?_
    -- how it goes on is the same once it is known whether what is before is looked through
    all_goals
      intro searched
      dsimp only
      split
      · exact .throw _
      · exact .bind ⟨_, isImport_importSource _ _⟩ fun m => ih _ (some m) (.inl rfl)

/-- **To import a module is an import**, and gives the module or fails. -/
theorem givesModule_importModule (i : Installation) (name : String) :
    GivesModule (importModule i name) := by
  have hsplit : split '.' name ≠ [] := by
    obtain ⟨p, ps, h⟩ := exists_pieces_eq_cons '.' name.toList
    rw [split, h]
    exact List.cons_ne_nil _ _
  have hrest := givesModule_importFrom i [] none (split '.' name) (.inr hsplit)
  unfold importModule
  dsimp only
  split
  · exact ⟨.error _, .bind_error (.throw _) _⟩
  · split
    · exact ⟨.error _, .bind_error (.throw _) _⟩
    · exact hrest

/-! ## Which modules are loaded -/

namespace Installation

/-- To import the module of a name gives `m`. -/
def Imports (i : Installation) (name : String) (m : Module) : Prop :=
  IsImport (importModule i name) (.ok (some m))

/-- To import the module of a name fails. -/
def Fails (i : Installation) (name : String) (f : Failure) : Prop :=
  IsImport (importModule i name) (.error f)

/-- What is imported in one world is imported in all. -/
theorem exists_imports_of_runIn {i : Installation} {name : String} {w : World} {β : Type}
    {f : Module → β} {b : β}
    (h : ((importModule i name).runIn w).1.toOption.join.map f = some b) :
    ∃ m, i.Imports name m ∧ f m = b := by
  obtain ⟨result, hresult⟩ := givesModule_importModule i name
  obtain ⟨imports, hrun⟩ := hresult w
  rw [hrun] at h
  cases result with
  | error failure => cases h
  | ok m => exact ⟨m, hresult, Option.some.inj h⟩

theorem imports_or_fails (i : Installation) (name : String) :
    (∃ m, i.Imports name m) ∨ ∃ f, i.Fails name f := by
  obtain ⟨f | m, h⟩ := givesModule_importModule i name
  · exact .inr ⟨f, h⟩
  · exact .inl ⟨m, h⟩

/-- The modules that are imported one after the other, until one fails, and how that ends. -/
inductive ImportsEach (i : Installation) :
    List (List String) → List Module → Except Failure Unit → Prop where
  | done : i.ImportsEach [] [] (.ok ())
  | imported {path : List String} {paths : List (List String)} {m : Module} {modules : List Module}
      {ends : Except Failure Unit} (first : i.Imports (dotted path) m)
      (rest : i.ImportsEach paths modules ends) : i.ImportsEach (path :: paths) (m :: modules) ends
  | failed {path : List String} {paths : List (List String)} {f : Failure}
      (first : i.Fails (dotted path) f) : i.ImportsEach (path :: paths) [] (.error f)

theorem exists_importsEach (i : Installation) (paths : List (List String)) :
    ∃ modules ends, i.ImportsEach paths modules ends := by
  induction paths with
  | nil => exact ⟨_, _, .done⟩
  | cons path paths ih =>
    rcases i.imports_or_fails (dotted path) with ⟨m, hm⟩ | ⟨f, hf⟩
    · obtain ⟨modules, ends, hrest⟩ := ih
      exact ⟨_, _, .imported hm hrest⟩
    · exact ⟨_, _, .failed hf⟩

/-- The paths of the modules that a package is looked through for. -/
def searched (i : Installation) (path directories : List String) : List (List String) :=
  (directories.filter (· == directoryText path)).flatMap fun _ =>
    (i.publicModules path).map (i.commandModule path)

theorem searched_own {i : Installation} {path : List String} {name : String}
    (modules : i.publicModules path = [name]) :
    i.searched path [directoryText path] = [i.commandModule path name] := by
  simp [searched, modules]

/-- The modules of a package whose commands are registered when it is loaded, and how that ends. -/
inductive Loads (i : Installation) (package : String) :
    List Module → Except Failure Unit → Prop where
  | failed {f : Failure} (home : i.Fails package f) : i.Loads package [] (.error f)
  | unreadable {m : Module} {e : Export} {f : Failure} (home : i.Imports package m)
      (path : m.path? = some e) (items : e.items = .error f) : i.Loads package [] (.error f)
  | plain {m : Module} (home : i.Imports package m)
      (path : ∀ e, m.path? = some e → e.items = .ok []) : i.Loads package []
        (.error (.error "RuntimeError" s!"'{package}' must be a package (folder) with modules."))
  | package {m : Module} {e : Export} {directories : List String} {modules : List Module}
      {ends : Except Failure Unit} (home : i.Imports package m) (path : m.path? = some e)
      (items : e.items = .ok directories) (nonempty : directories ≠ [])
      (each : i.ImportsEach (i.searched (split '.' package) directories) modules ends) :
      i.Loads package modules ends

/-- **It is always settled which modules are loaded**, whatever is on the console. -/
theorem exists_loads (i : Installation) (package : String) :
    ∃ modules ends, i.Loads package modules ends := by
  rcases i.imports_or_fails package with ⟨m, hm⟩ | ⟨f, hf⟩
  swap
  · exact ⟨_, _, .failed hf⟩
  cases hpath : m.path? with
  | none => exact ⟨_, _, .plain hm (by simp [hpath])⟩
  | some e =>
    cases hitems : e.items with
    | error f => exact ⟨_, _, .unreadable hm hpath hitems⟩
    | ok directories =>
      cases directories with
      | nil => exact ⟨_, _, .plain hm (by simp [hpath, hitems])⟩
      | cons d ds =>
        obtain ⟨modules, ends, heach⟩ :=
          i.exists_importsEach (i.searched (split '.' package) (d :: ds))
        exact ⟨_, _, .package hm hpath hitems (List.cons_ne_nil d ds) heach⟩

end Installation

/-! ## What loading registers -/

/-- An effect registers commands one after the other and counts on from `count` how many are taken,
unless it fails after that. It changes nothing else of the console, and nothing of the session. -/
def Registers (count : Nat) (t : Effect Nat) (ds : List (Definition Action))
    (ends : Except Failure Unit) : Prop :=
  ∀ w, ∃ w', t.runIn w = ((fun _ => count + (w.console.table.taken ds).length) <$> ends, w') ∧
    w'.console = { w.console with table := w.console.table.afterCalls (ds.map .register) } ∧
    w'.session = w.session

namespace Registers

variable {count : Nat} {t : Effect Nat} {ds ds' : List (Definition Action)}
  {ends : Except Failure Unit}

theorem pure (count : Nat) : Registers count (pure count) [] (.ok ()) :=
  fun w => ⟨w, runIn_pure count w, rfl, rfl⟩

/-- **Of two effects in a row** the second goes on where the first ended. -/
theorem bind (ht : Registers count t ds (.ok ())) {next : Nat → Effect Nat}
    (hnext : ∀ n, Registers n (next n) ds' ends) :
    Registers count (t >>= next) (ds ++ ds') ends := by
  intro w
  obtain ⟨w₁, hrun₁, hconsole₁, hsession₁⟩ := ht w
  obtain ⟨w₂, hrun₂, hconsole₂, hsession₂⟩ := hnext (count + (w.console.table.taken ds).length) w₁
  have htable : w₁.console.table = w.console.table.afterCalls (ds.map .register) := by
    rw [hconsole₁]
  refine ⟨w₂, ?_, ?_, hsession₂.trans hsession₁⟩
  · rw [runIn_bind_of_ok hrun₁, hrun₂, htable, Table.taken_append, List.length_append,
      Nat.add_assoc]
  · rw [hconsole₂, hconsole₁, List.map_append, Table.afterCalls_append]

theorem add (ht : Registers 0 t ds ends) (count : Nat) :
    Registers count (do return count + (← t)) ds ends := by
  intro w
  obtain ⟨w', hrun, hkept⟩ := ht w
  refine ⟨w', ?_, hkept⟩
  cases ends with
  | error f => exact runIn_bind_of_error hrun _
  | ok _ =>
    rw [runIn_bind_of_ok hrun, runIn_pure, Nat.zero_add]
    rfl

theorem note (n : Notice) (ht : Registers count t ds ends) :
    Registers count (do Effect.note n; t) ds ends := by
  intro w
  obtain ⟨w', hrun, hkept⟩ := ht (w.recorded (.notice n))
  exact ⟨w', (runIn_bind_of_ok (runIn_note n w) _).trans hrun, hkept⟩

theorem bind_of_isImport {α : Type} {u : Effect α} {a : α} (hu : IsImport u (.ok a))
    {next : α → Effect Nat} (hnext : Registers count (next a) ds ends) :
    Registers count (u >>= next) ds ends := by
  intro w
  obtain ⟨imports, himport⟩ := hu w
  obtain ⟨w', hrun, hkept⟩ := hnext { w with journal.imports := imports }
  exact ⟨w', (runIn_bind_of_ok himport next).trans hrun, hkept⟩

theorem of_isImport_error {f : Failure} (ht : IsImport t (.error f)) (count : Nat) :
    Registers count t [] (.error f) := by
  intro w
  obtain ⟨imports, hrun⟩ := ht w
  exact ⟨_, hrun, rfl, rfl⟩

theorem runIn_eq (ht : Registers 0 t ds ends) (w : World) :
    (t.runIn w).1 = (fun _ => (w.console.table.taken ds).length) <$> ends ∧
      (t.runIn w).2.console =
        { w.console with table := w.console.table.afterCalls (ds.map .register) } := by
  obtain ⟨w', hrun, hconsole, -⟩ := ht w
  rw [hrun, Nat.zero_add]
  exact ⟨rfl, hconsole⟩

/-- **Once more, nothing is registered**: none is counted, and the console stays as it is. -/
theorem runIn_again (ht : Registers 0 t ds ends) {w : World} (keyed : w.console.table.WellKeyed) :
    (t.runIn (t.runIn w).2).1 = (fun _ => 0) <$> (t.runIn w).1 ∧
      (t.runIn (t.runIn w).2).2.console = (t.runIn w).2.console := by
  obtain ⟨hresult, hconsole⟩ := ht.runIn_eq w
  obtain ⟨hagain, hconsole'⟩ := ht.runIn_eq (t.runIn w).2
  obtain ⟨hnone, hsame⟩ := keyed.taken_again ds
  have htable : (t.runIn w).2.console.table = w.console.table.afterCalls (ds.map .register) := by
    rw [hconsole]
  rw [htable, hsame, ← htable] at hconsole'
  refine ⟨?_, hconsole'⟩
  rw [hagain, htable, hnone, hresult]
  cases ends <;> rfl

end Registers

theorem registers_registerFound (home : String) (ds : List (Definition Action)) :
    Registers 0 (registerFound home ds) ds (.ok ()) := by
  induction ds with
  | nil => exact .pure 0
  | cons d ds ih =>
    intro w
    obtain ⟨w₁, hfirst, hconsole, hsession⟩ := exists_runIn_register d w
    have htable : w₁.console.table = (w.console.table.call (.register d)).2 := by rw [hconsole]
    -- a command that was not taken is told of, and that registers nothing
    have hrest (taken : Bool) : Registers taken.toNat
        (do
          if !taken then Effect.note (.commandNotLoaded d.name home)
          return taken.toNat + (← registerFound home ds)) ds (.ok ()) := by
      cases taken with
      | true => exact ih.add _
      | false => exact (ih.add _).note _
    obtain ⟨w₂, hrun, hconsole', hsession'⟩ := hrest (w.console.table.call (.register d)).1 w₁
    refine ⟨w₂, ?_, ?_, hsession'.trans hsession⟩
    · rw [registerFound, runIn_bind_of_ok hfirst, hrun, htable, Table.length_taken_cons,
        Nat.zero_add]
    · rw [hconsole', htable, hconsole, List.map_cons, Table.afterCalls_cons]

theorem Installation.ImportsEach.registers {i : Installation} {paths : List (List String)}
    {modules : List Module} {ends : Except Failure Unit} (h : i.ImportsEach paths modules ends) :
    Registers 0 (loadModules i paths) (modules.flatMap (·.commands)) ends := by
  induction h with
  | done => exact .pure 0
  | imported first rest ih =>
    rw [loadModules, List.flatMap_cons]
    exact .bind_of_isImport first ((registers_registerFound _ _).bind fun n => (ih.add n).note _)
  | failed first =>
    rw [loadModules]
    exact .of_isImport_error (first.bind_error _) 0

/-- **Loading registers the commands of the modules in order**, and counts those that are taken. -/
theorem Installation.Loads.registers {i : Installation} {package : String} {modules : List Module}
    {ends : Except Failure Unit} (h : i.Loads package modules ends) :
    Registers 0 (load i package) (modules.flatMap (·.commands)) ends := by
  unfold load
  cases h with
  | failed home => exact .of_isImport_error (home.bind_error _) 0
  | unreadable home path items =>
    refine .bind_of_isImport home ?_
    simp only [path, items]
    exact .of_isImport_error ((IsImport.resume _).bind_error _) 0
  | @plain m home path =>
    refine .bind_of_isImport home (.of_isImport_error ?_ 0)
    cases hpath : m.path? with
    | none =>
      simp only [hpath]
      refine (IsImport.pure []).bind ?_
      exact (IsImport.throw _).bind_error _
    | some e =>
      simp only [hpath, path e hpath]
      refine (IsImport.resume _).bind ?_
      exact (IsImport.throw _).bind_error _
  | package home path items nonempty each =>
    refine .bind_of_isImport home ?_
    simp only [path, items]
    refine .bind_of_isImport (.resume _) ?_
    simp only [List.isEmpty_iff, if_neg nonempty]
    exact each.registers

/-- **Loading counts what it adds, and adds nothing the second time.** Take a console whose table
any calls led to, and any package. Loading registers the commands of the package's modules in order
and gives the number of those that are taken, unless something cannot be imported: then it fails,
once the modules before are done. The number is that by which the table has grown. The commands that
were there stay in their places and are found as before, and nothing but the table changes on the
console. When the package is loaded again right away, this ends in the same way, counts none, and
leaves the console as it is. -/
theorem load_counts_growth (i : Installation) (package : String) (calls : List (TableCall Action))
    {w : World} (reached : w.console.table = Table.empty.afterCalls calls) :
    let run := (load i package).runIn w
    let again := (load i package).runIn run.2
    (∃ modules ends, i.Loads package modules ends) ∧
    (∀ modules ends, i.Loads package modules ends →
      run.1 = (fun _ => (w.console.table.taken (modules.flatMap (·.commands))).length) <$> ends ∧
      run.2.console = { w.console with
        table := w.console.table.afterCalls ((modules.flatMap (·.commands)).map .register) }) ∧
    (∀ n, run.1 = .ok n → run.2.console.table.size = w.console.table.size + n) ∧
    w.console.table.entries <+: run.2.console.table.entries ∧
    w.console.table.names <+: run.2.console.table.names ∧
    (∀ s d, w.console.table.get? s = some d → run.2.console.table.get? s = some d) ∧
    again.1 = (fun _ => 0) <$> run.1 ∧ again.2.console = run.2.console := by
  intro run again
  have keyed : w.console.table.WellKeyed := reached ▸ Table.afterCalls_wellKeyed calls
  have hregisters {modules : List Module} {ends : Except Failure Unit}
      (h : i.Loads package modules ends) := h.registers.runIn_eq w
  -- which modules there are does not depend on the console, so both runs find the same
  obtain ⟨modules, ends, hloads⟩ := i.exists_loads package
  let ds := modules.flatMap (·.commands)
  obtain ⟨hresult, hconsole⟩ := hregisters hloads
  have hentries : run.2.console.table.entries = w.console.table.entries ++
      (w.console.table.taken ds).map fun d => (d.normalized.name, d.normalized) := by
    rw [hconsole, keyed.entries_afterCalls_register]
  refine ⟨⟨modules, ends, hloads⟩, fun _ _ => hregisters, fun n hn => ?_, ⟨_, hentries.symm⟩, ?_,
    fun s d hd => ?_, hloads.registers.runIn_again keyed⟩
  · rw [hresult] at hn
    cases ends with
    | error f => cases hn
    | ok _ =>
      obtain rfl := Except.ok.inj hn
      rw [Table.size, hentries, List.length_append, List.length_map, Table.size]
  · rw [Table.names, Table.names, hentries, List.map_append]
    exact List.prefix_append _ _
  · have hfound := keyed.get?_eq_some_iff.mp hd
    rw [hconsole]
    refine (keyed.afterCalls _).get?_eq_some_iff.mpr ⟨?_, hfound.2⟩
    rw [keyed.commands_afterCalls_register]
    exact List.mem_append_left _ hfound.1

/-- A command of these names without parameters. -/
def gesture (name : String) (aliases : List String) : Declaration Action where
  name := name
  help := ""
  aliases := aliases
  parameters := []
  callback := some (.builtin .list)
  fallback := none
  home := ""

/-- A package with one module, whose commands are in each other's way. -/
def gestures : Installation where
  files := [
    ⟨["gestures", "__init__.py"], []⟩,
    ⟨["gestures", "hands.py"], [
      ("COMMAND", .command (gesture "wave" ["hi"])),
      ("COMMANDS", .list [.command (gesture "Hi" []), .command (gesture "bow" []),
        .command (gesture "nod" ["yes"])]),
      ("clap", .function ⟨"clap", none, "gestures.hands", []⟩ true
        ⟨none, some "", ["yes"], [], none⟩ (.builtin .list))]⟩]
  directories := []

/-- A console that has one of these commands already. -/
def bowing : World :=
  { World.bare with console.table := Table.empty.afterCalls [.register ⟨gesture "bow" [], rfl⟩] }

theorem names_gestures : gestures.names ["gestures"] = ["__init__.py", "hands.py"] := by
  unfold Installation.names
  dsimp only
  rw [List.mergeSort_of_pairwise (by decide)]
  decide

theorem searched_gestures :
    gestures.searched ["gestures"] ["/gestures"] = [["gestures", "hands"]] := by
  have hown : directoryText ["gestures"] = "/gestures" := by decide
  have hmodules : gestures.publicModules ["gestures"] = ["hands"] := by
    rw [Installation.publicModules, names_gestures]
    decide
  have hhands : gestures.commandModule ["gestures"] "hands" = ["gestures", "hands"] := by
    decide
  rw [← hown, Installation.searched_own hmodules, hhands]

/-- Of the commands of the module, two are taken beside the one that is there already. -/
theorem exists_loads_gestures : ∃ m, gestures.Loads "gestures" [m] (.ok ()) ∧
    (bowing.console.table.taken m.commands).length = 2 := by
  obtain ⟨package, home, hlisted⟩ : ∃ m, gestures.Imports "gestures" m ∧
      (m.path?.bind fun e => e.items.toOption) = some ["/gestures"] :=
    Installation.exists_imports_of_runIn (w := .bare) (by decide +kernel)
  obtain ⟨e, hpath, hdirectories⟩ := Option.bind_eq_some_iff.mp hlisted
  obtain ⟨m, hm, hnames⟩ : ∃ m, gestures.Imports "gestures.hands" m ∧
      (bowing.console.table.taken m.commands).map (·.name) = ["wave", "nod"] :=
    Installation.exists_imports_of_runIn (w := .bare) (by decide +kernel)
  have hdotted : dotted ["gestures", "hands"] = "gestures.hands" := by decide
  have hsplit : split '.' "gestures" = ["gestures"] := by decide
  have heach : gestures.ImportsEach (gestures.searched ["gestures"] ["/gestures"]) [m]
      (.ok ()) := by
    rw [searched_gestures]
    exact .imported (hdotted ▸ hm) .done
  refine ⟨m, ?_, by rw [← List.length_map, hnames]; rfl⟩
  cases hitems : e.items with
  | error f =>
    rw [hitems] at hdirectories
    cases hdirectories
  | ok directories =>
    rw [hitems] at hdirectories
    obtain rfl := Option.some.inj hdirectories
    exact .package home hpath hitems (List.cons_ne_nil _ _) (hsplit ▸ heach)

/-- A package is loaded twice. -/
theorem load_counts_growth_gestures :
    bowing.console.table = Table.empty.afterCalls [.register ⟨gesture "bow" [], rfl⟩] ∧
      ((load gestures "gestures").runIn bowing).1 = .ok 2 ∧
      ((load gestures "gestures").runIn bowing).2.console.table.size =
        bowing.console.table.size + 2 ∧
      ((load gestures "gestures").runIn ((load gestures "gestures").runIn bowing).2).1 = .ok 0 := by
  have reached : bowing.console.table =
      Table.empty.afterCalls [.register ⟨gesture "bow" [], rfl⟩] := rfl
  obtain ⟨m, hloads, htwo⟩ := exists_loads_gestures
  obtain ⟨-, hregisters, hsize, -, -, -, hagain, -⟩ :=
    load_counts_growth gestures "gestures" _ reached
  have hrun : ((load gestures "gestures").runIn bowing).1 = .ok 2 := by
    rw [(hregisters [m] (.ok ()) hloads).1, List.flatMap_singleton, htwo]
    rfl
  refine ⟨reached, hrun, hsize 2 hrun, ?_⟩
  rw [hagain, hrun]
  rfl

end CommandConsole.Loading
