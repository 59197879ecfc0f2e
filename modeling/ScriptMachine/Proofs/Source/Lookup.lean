import ScriptMachine.Proofs.Source.Paths
import ScriptMachine.Proofs.Text.Lowercase
import ScriptMachine.Source.Directory

/-!
# Looking up scripts

A look-up of a script stays below its directory. A name is refused before any file is opened
if it could lead elsewhere, and what is tried of another name are names behind the directory:
those of the script with the extension, then their lower-case form.
-/

namespace ScriptMachine

open Text

namespace Path

variable {cs : List Char} {path : String}

theorem piece_induction {P : List Char → Prop} (piece : ∀ cs, '/' ∉ cs → P cs)
    (slash : ∀ a last, '/' ∉ last → P a → P (a ++ '/' :: last)) (cs : List Char) : P cs := by
  induction h : cs.length using Nat.strongRecOn generalizing cs with
  | ind n ih =>
    obtain ⟨last, bare, rfl | ⟨a, rfl⟩⟩ := exists_last_piece cs
    · exact piece cs bare
    · refine slash a last bare (ih a.length ?_ a rfl)
      simp only [List.length_append, List.length_cons] at h
      omega

/-! Lower-case paths. -/

theorem lowerFrom_notMem (bare : '/' ∉ cs) : '/' ∉ lowerFrom [] cs :=
  mt (mark_mem_lowerFrom (.inl rfl)).mp bare

theorem pieces_lowerFrom (cs : List Char) :
    pieces (lowerFrom [] cs) = (pieces cs).map (lowerFrom []) := by
  induction cs using piece_induction with
  | piece cs bare => simp [pieces_of_notMem bare, pieces_of_notMem (lowerFrom_notMem bare)]
  | slash a last bare ih =>
    simp [lowerFrom_slash, pieces_slash, ih, pieces_of_notMem bare,
      pieces_of_notMem (lowerFrom_notMem bare)]

theorem lowerFrom_of_pieces (h : ∀ p ∈ pieces cs, lowerFrom [] p = p) : lowerFrom [] cs = cs := by
  induction cs using piece_induction with
  | piece cs bare => exact h cs (by simp [pieces_of_notMem bare])
  | slash a last bare ih =>
    rw [pieces_slash, pieces_of_notMem bare] at h
    rw [lowerFrom_slash, ih fun p hp => h p (by simp [hp]), h last (by simp)]

def Component.lower : Component → Component
  | .normal name => .normal (lowercase name)
  | c => c

theorem component?_lowerFrom (cs : List Char) :
    component? (lowerFrom [] cs) = (component? cs).map Component.lower := by
  have nil : lowerFrom [] cs = [] ↔ cs = [] := lowerFrom_dots 0
  have dot : lowerFrom [] cs = ['.'] ↔ cs = ['.'] := lowerFrom_dots 1
  have dots : lowerFrom [] cs = ['.', '.'] ↔ cs = ['.', '.'] := lowerFrom_dots 2
  simp only [component?, nil, dot, dots]
  by_cases idle : cs = [] ∨ cs = ['.']
  · simp [idle]
  · by_cases up : cs = ['.', '.']
    · simp [up, Component.lower]
    · simp [idle, up, Component.lower, lowercase]

theorem names_lowerFrom (cs : List Char) :
    names (lowerFrom [] cs) = (names cs).map Component.lower := by
  have each : component? ∘ lowerFrom [] = fun p => (component? p).map Component.lower :=
    funext component?_lowerFrom
  rw [names, pieces_lowerFrom, List.filterMap_map, each, names, List.map_filterMap]

theorem anchor_lowerFrom (cs : List Char) : anchor (lowerFrom [] cs) = anchor cs := by
  have slash : (lowerFrom [] cs).head? = some '/' ↔ cs.head? = some '/' := by
    simp only [List.head?_eq_some_iff, lowerFrom_eq_cons_mark (.inl rfl : IsMark '/')]
    exact ⟨fun ⟨_, rest, h, _⟩ => ⟨rest, h⟩, fun ⟨rest, h⟩ => ⟨_, rest, h, rfl⟩⟩
  have dot : (pieces (lowerFrom [] cs)).head? = some ['.'] ↔ (pieces cs).head? = some ['.'] := by
    rw [pieces_lowerFrom]
    cases pieces cs with
    | nil => simp
    | cons p more => simpa using (lowerFrom_dots 1 : _ ↔ p = _)
  simp only [anchor, slash, dot]

theorem map_lower_anchor (cs : List Char) : (anchor cs).map Component.lower = anchor cs := by
  rw [anchor]
  split
  · rfl
  · split <;> rfl

theorem components_lowercase (path : String) :
    components (lowercase path) = (components path).map Component.lower := by
  simp [components_eq, lowercase, anchor_lowerFrom, names_lowerFrom, map_lower_anchor]

theorem components_lowercase_eq_iff :
    components (lowercase path) = components path ↔ lowercase path = path := by
  refine ⟨fun same => ?_, fun same => by rw [same]⟩
  have fixed : ∀ c ∈ components path, c.lower = c := by
    rw [components_lowercase] at same
    exact List.map_inj_left.mp (same.trans (List.map_id _).symm)
  rw [← String.toList_inj, lowercase, String.toList_ofList]
  apply lowerFrom_of_pieces
  intro p hp
  cases hc : component? p with
  | none =>
    rcases component?_eq_none.mp hc with rfl | rfl
    · rfl
    · exact (lowerFrom_dots 1).mpr rfl
  | some c =>
    have stays := fixed c (List.mem_append_right _ (List.mem_filterMap.mpr ⟨p, hp, hc⟩))
    rw [component?] at hc
    split at hc
    · contradiction
    · split at hc
      · rename_i dots
        rw [dots]
        exact (lowerFrom_dots 2).mpr rfl
      · obtain rfl := (Option.some_inj.mp hc).symm
        simpa [Component.lower, lowercase, ← String.toList_inj] using stays

end Path

/-! Looking up a script. -/

namespace Directory

def extended (last : String) : String :=
  if '.' ∈ last.toList.tail then last else last ++ ".int"

theorem components_fileName {name : String} (plain : Path.isPlain name = true) :
    ∃ front last, Path.components name = front ++ [.normal last] ∧
      Path.components (fileName name) = front ++ [.normal (extended last)] := by
  obtain ⟨front, last, hname, hextended⟩ :=
    Path.components_addExtension extension plain (by decide)
  refine ⟨front, last, hname, ?_⟩
  rw [fileName, Path.extension?_of_last hname, extended]
  by_cases dotted : '.' ∈ last.toList.tail
  · have given : (Path.nameExtension? last.toList).isSome = true := by
      rw [Option.isSome_iff_ne_none]
      exact fun none => Path.nameExtension?_eq_none.mp none dotted
    rw [if_pos dotted, if_pos given, hname]
  · have missing := Path.nameExtension?_eq_none.mpr dotted
    rw [if_neg dotted, missing, if_neg (by simp), hextended, String.append_assoc]
    rfl

/-- A name with slashes and dots at its end. -/
example : Path.components (fileName "Maps//Door/./") = [.normal "Maps", .normal "Door.int"] := by
  decide

/-- A file that is found only in lower case. -/
example : Id.run (read (fun path => pure (if path = "maps/door.int" then .ok #[1] else
    .error .notFound)) "maps" "DOOR.INT") = .ok #[1] := by
  decide +kernel

def Below (root path : String) : Prop :=
  ∃ names : List String, names ≠ [] ∧
    Path.components path = Path.components root ++ names.map .normal

theorem exists_names {cs : List Path.Component} (h : ∀ c ∈ cs, c.isNormal = true) :
    ∃ names : List String, cs = names.map .normal := by
  induction cs with
  | nil => exact ⟨[], rfl⟩
  | cons c cs ih =>
    obtain ⟨names, rfl⟩ := ih fun c hc => h c (List.mem_cons_of_mem _ hc)
    have normal := h c List.mem_cons_self
    cases c with
    | normal name => exact ⟨name :: names, rfl⟩
    | _ => contradiction

theorem below_join {path : String} (root : String) (some_name : Path.components path ≠ [])
    (normal : ∀ c ∈ Path.components path, c.isNormal = true) :
    Below root (Path.join root path) := by
  obtain ⟨names, hnames⟩ := exists_names normal
  refine ⟨names, ?_, by rw [Path.components_join_of_normal root normal, hnames]⟩
  rintro rfl
  exact some_name hnames

inductive Search (name : String) : List String →
    List (String × Except FileError (Array UInt8)) → Except SourceError (Array UInt8) → Prop where
  | nowhere : Search name [] [] (.error (.notFound name))
  | found (path : String) (rest : List String) (bytes : Array UInt8) :
      Search name (path :: rest) [(path, .ok bytes)] (.ok bytes)
  | missing {rest : List String} {tried : List (String × Except FileError (Array UInt8))}
      {result : Except SourceError (Array UInt8)} (path : String) : Search name rest tried result →
      Search name (path :: rest) ((path, .error .notFound) :: tried) result
  | broken (path : String) (rest : List String) (e : FileError) : e ≠ .notFound →
      Search name (path :: rest) [(path, .error e)] (.error (.unreadable name e))

theorem Search.mem {name : String} {paths : List String}
    {tried : List (String × Except FileError (Array UInt8))}
    {result : Except SourceError (Array UInt8)} (h : Search name paths tried result) :
    ∀ attempt ∈ tried, attempt.1 ∈ paths := by
  induction h with
  | nowhere => simp
  | found | broken => simp
  | missing path _ ih =>
    intro attempt hattempt
    rcases List.mem_cons.mp hattempt with rfl | further
    · exact List.mem_cons_self
    · exact List.mem_cons_of_mem _ (ih attempt further)

theorem Search.valid {name : String} {paths : List String}
    {tried : List (String × Except FileError (Array UInt8))}
    {result : Except SourceError (Array UInt8)} (h : Search name paths tried result) :
    result ≠ .error (.invalidName name) := by
  induction h with
  | nowhere | found | broken => simp
  | missing _ _ ih => exact ih

def recorded {τ : Type} (openFile : Opener (StateM τ)) :
    Opener (StateM (τ × List (String × Except FileError (Array UInt8)))) := fun path (t, tried) =>
  let (answer, t) := openFile path t
  (answer, t, tried ++ [(path, answer)])

theorem firstFound_cons {τ : Type} (openFile : Opener (StateM τ)) (name path : String)
    (rest : List String) (t : τ) : firstFound openFile name (path :: rest) t =
      match openFile path t with
      | (.ok bytes, t) => (.ok bytes, t)
      | (.error e, t) =>
        if e = .notFound then firstFound openFile name rest t
        else (.error (.unreadable name e), t) := by
  simp only [firstFound, Bind.bind, StateT.bind]
  cases openFile path t with
  | mk answer t =>
    cases answer with
    | ok bytes => rfl
    | error e => cases e <;> rfl

theorem search_firstFound {τ : Type} (openFile : Opener (StateM τ)) (name : String)
    (paths : List String) (t : τ) (before : List (String × Except FileError (Array UInt8))) :
    ∃ result t' tried, firstFound openFile name paths t = (result, t') ∧
      firstFound (recorded openFile) name paths (t, before) = (result, t', before ++ tried) ∧
      Search name paths tried result := by
  induction paths generalizing t before with
  | nil => exact ⟨_, t, [], rfl, by rw [List.append_nil]; rfl, .nowhere⟩
  | cons path rest ih =>
    cases hopen : openFile path t with
    | mk answer t₁ =>
      cases answer with
      | ok bytes =>
        refine ⟨.ok bytes, t₁, [(path, .ok bytes)], ?_, ?_, .found path rest bytes⟩
        · rw [firstFound_cons, hopen]
        · rw [firstFound_cons, recorded, hopen]
      | error e =>
        by_cases hmissing : e = .notFound
        · subst hmissing
          obtain ⟨result, t', tried, hresult, hrecorded, search⟩ :=
            ih t₁ (before ++ [(path, .error .notFound)])
          refine ⟨result, t', (path, .error .notFound) :: tried, ?_, ?_, .missing path search⟩
          · rw [firstFound_cons, hopen]
            exact hresult
          · rw [firstFound_cons, recorded, hopen, List.append_cons]
            exact hrecorded
        · refine ⟨.error (.unreadable name e), t₁, [(path, .error e)], ?_, ?_,
            .broken path rest e hmissing⟩
          · rw [firstFound_cons, hopen]
            exact if_neg hmissing
          · rw [firstFound_cons, recorded, hopen]
            exact if_neg hmissing

structure Sought (root name given lower : String) : Prop where
  extended : ∃ front last, Path.components name = front ++ [.normal last] ∧
    Path.components given = front ++ [.normal (Directory.extended last)]
  lowered : Path.components lower = (Path.components given).map Path.Component.lower
  same_iff : Path.components lower = Path.components given ↔ lower = given
  behind : ∀ path ∈ [given, lower], Below root (Path.join root path) ∧
    Path.components (Path.join root path) = Path.components root ++ Path.components path

theorem normal_of_lower {c : Path.Component} (h : c.isNormal = true) : c.lower.isNormal = true := by
  cases c <;> simp_all [Path.Component.lower, Path.Component.isNormal]

theorem sought_fileName {name : String} (root : String) (plain : Path.isPlain name = true) :
    Sought root name (fileName name) (lowercase (fileName name)) := by
  obtain ⟨front, last, hname, hgiven⟩ := components_fileName plain
  have hlower := Path.components_lowercase (fileName name)
  have normal : ∀ c ∈ Path.components (fileName name), c.isNormal = true := by
    have names := (Bool.and_eq_true_iff.mp plain).2
    rw [hname, List.all_append] at names
    rw [hgiven]
    intro c hc
    rcases List.mem_append.mp hc with hfront | hlast
    · exact List.all_eq_true.mp (Bool.and_eq_true_iff.mp names).1 c hfront
    · obtain rfl := List.mem_singleton.mp hlast
      rfl
  refine ⟨⟨front, last, hname, hgiven⟩, hlower, Path.components_lowercase_eq_iff, ?_⟩
  have some_name : Path.components (fileName name) ≠ [] := by simp [hgiven]
  have behind {path : String} (hpath : path ∈ [fileName name, lowercase (fileName name)]) :
      Path.components path ≠ [] ∧ ∀ c ∈ Path.components path, c.isNormal = true := by
    obtain rfl | rfl : path = fileName name ∨ path = lowercase (fileName name) := by
      simpa using hpath
    · exact ⟨some_name, normal⟩
    · rw [hlower]
      refine ⟨by simpa using some_name, fun c hc => ?_⟩
      obtain ⟨upper, hupper, rfl⟩ := List.mem_map.mp hc
      exact normal_of_lower (normal upper hupper)
  intro path hpath
  obtain ⟨some_name, normal⟩ := behind hpath
  exact ⟨below_join root some_name normal, Path.components_join_of_normal root normal⟩

/-- A look-up of a script, whatever files there are and however they change between attempts.
A name that could lead elsewhere is refused, and no file is touched. Of any other name, the path
with the extension is tried, and if it is not found, the lower-case form of that path, unless it
is the same. All that is tried is below the directory. -/
theorem lookup_stays_below {τ : Type} (openFile : Opener (StateM τ)) (root name : String) (t : τ) :
    ∃ result t' tried,
      read openFile root name t = (result, t') ∧
      read (recorded openFile) root name (t, []) = (result, t', tried) ∧
      (result = .error (.invalidName name) ↔ name = "" ∨ .root ∈ Path.components name ∨
        .current ∈ Path.components name ∨ .parent ∈ Path.components name) ∧
      (result = .error (.invalidName name) → t' = t ∧ tried = []) ∧
      (∀ attempt ∈ tried, Below root attempt.1) ∧
      (result ≠ .error (.invalidName name) →
        ∃ given lower, lower = lowercase given ∧ Sought root name given lower ∧
          Search name (if lower = given then [Path.join root given]
            else [Path.join root given, Path.join root lower]) tried result) := by
  cases plain : Path.isPlain name with
  | false =>
    have refused : candidates root name = .error (.invalidName name) := by simp [candidates, plain]
    refine ⟨.error (.invalidName name), t, [], ?_, ?_, ?_, fun _ => ⟨rfl, rfl⟩, by simp, ?_⟩
    · rw [read, refused]
      rfl
    · rw [read, refused]
      rfl
    · exact iff_of_true rfl (Path.isPlain_eq_false.mp plain)
    · exact fun valid => absurd rfl valid
  | true =>
    have sought := sought_fileName root plain
    generalize hgiven : fileName name = given at sought
    let paths := if lowercase given = given then [Path.join root given]
      else [Path.join root given, Path.join root (lowercase given)]
    have listed : candidates root name = .ok paths := by
      by_cases same : lowercase given = given <;> simp [candidates, plain, hgiven, paths, same]
    obtain ⟨result, t', tried, hresult, hrecorded, search⟩ :=
      search_firstFound openFile name paths t []
    have stays := mt (@Path.isPlain_eq_false name).mpr (by simp [plain])
    refine ⟨result, t', tried, ?_, ?_, iff_of_false search.valid stays,
      fun refused => absurd refused search.valid, ?_, fun _ => ⟨given, _, rfl, sought, search⟩⟩
    · rw [read, listed]
      exact hresult
    · rw [read, listed]
      exact hrecorded
    · intro attempt hattempt
      have joined : ∃ path ∈ [given, lowercase given], attempt.1 = Path.join root path := by
        have path_mem := search.mem attempt hattempt
        by_cases same : lowercase given = given <;> simp_all [paths]
      obtain ⟨path, hpath, hattempt⟩ := joined
      rw [hattempt]
      exact (sought.behind path hpath).1

end Directory

end ScriptMachine
