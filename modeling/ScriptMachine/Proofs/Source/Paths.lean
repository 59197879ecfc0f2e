import Mathlib.Tactic.Common
import ScriptMachine.Source.Path

/-!
# Joining and extending paths

A path is cut into pieces at its slashes, and empty pieces and single dots name nothing. So a
path of names alone that is put behind a directory adds its names to those of the directory,
whatever slashes and dots stand between. An extension goes to the last of the names.
-/

namespace ScriptMachine.Path

variable {a b cs last : List Char} {path root : String}

theorem pieces_eq_splitOn (cs : List Char) : pieces cs = cs.splitOn '/' := by
  induction cs with
  | nil => rfl
  | cons c cs ih =>
    have whole := List.splitOn_ne_nil '/' cs
    rw [pieces, List.splitOn_cons_eq_if_modifyHead, ih]
    by_cases slash : c = '/'
    · simp [slash]
    · cases hs : cs.splitOn '/' with
      | nil => contradiction
      | cons piece more => simp [slash]

theorem pieces_slash (a b : List Char) : pieces (a ++ '/' :: b) = pieces a ++ pieces b := by
  simp only [pieces_eq_splitOn, List.splitOn_append_cons_self]

theorem pieces_of_notMem (h : '/' ∉ cs) : pieces cs = [cs] := by
  rw [pieces_eq_splitOn, List.splitOn_eq_singleton h]

theorem pieces_ne_nil (cs : List Char) : pieces cs ≠ [] := by
  rw [pieces_eq_splitOn]
  exact List.splitOn_ne_nil '/' cs

theorem head?_pieces_slash (a b : List Char) :
    (pieces (a ++ '/' :: b)).head? = (pieces a).head? := by
  rw [pieces_slash]
  cases h : pieces a with
  | nil => exact absurd h (pieces_ne_nil a)
  | cons piece more => rfl

theorem exists_last_piece (cs : List Char) :
    ∃ last, '/' ∉ last ∧ (cs = last ∨ ∃ a, cs = a ++ '/' :: last) := by
  induction cs with
  | nil => exact ⟨[], List.not_mem_nil, .inl rfl⟩
  | cons c cs ih =>
    obtain ⟨last, bare, rfl | ⟨a, rfl⟩⟩ := ih
    · by_cases slash : c = '/'
      · exact ⟨cs, bare, .inr ⟨[], by rw [slash]; rfl⟩⟩
      · exact ⟨c :: cs, by simp [bare, Ne.symm slash], .inl rfl⟩
    · exact ⟨last, bare, .inr ⟨c :: a, rfl⟩⟩

/-! What paths name. -/

theorem component?_eq_none : component? cs = none ↔ cs = [] ∨ cs = ['.'] := by
  by_cases idle : cs = [] ∨ cs = ['.']
  · simp [component?, idle]
  · by_cases up : cs = ['.', '.'] <;> simp [component?, idle, up]

theorem anchor_append_slash (h : a ≠ []) (b : List Char) : anchor (a ++ '/' :: b) = anchor a := by
  cases a with
  | nil => contradiction
  | cons c a =>
    rw [anchor, anchor, head?_pieces_slash]
    rfl

theorem anchor_slash (a b b' : List Char) : anchor (a ++ '/' :: b) = anchor (a ++ '/' :: b') := by
  cases a with
  | nil => rfl
  | cons c a =>
    have nonempty : c :: a ≠ [] := List.cons_ne_nil c a
    rw [anchor_append_slash nonempty, anchor_append_slash nonempty]

theorem anchor_of_slash (h : anchor (a ++ '/' :: b) = []) : anchor a = [] := by
  cases a with
  | nil => contradiction
  | cons c a => rwa [anchor_append_slash (List.cons_ne_nil c a)] at h

def names (cs : List Char) : List Component := (pieces cs).filterMap component?

theorem components_eq (path : String) :
    components path = anchor path.toList ++ names path.toList := rfl

theorem names_slash (a b : List Char) : names (a ++ '/' :: b) = names a ++ names b := by
  simp [names, pieces_slash]

theorem toList_join (root path : String) : (join root path).toList =
    if root = "" ∨ root.toList.getLast? = some '/' then root.toList ++ path.toList
    else root.toList ++ '/' :: path.toList := by
  simp only [join, Bool.or_eq_true, String.isEmpty_iff, decide_eq_true_eq]
  split <;> simp

theorem components_join (root : String) (h : anchor path.toList = []) :
    components (join root path) = components root ++ names path.toList := by
  rw [components_eq, components_eq, toList_join]
  by_cases empty : root = ""
  · rw [if_pos (.inl empty), empty]
    exact congrArg (· ++ names path.toList) h
  · have nonempty : root.toList ≠ [] := by simpa using empty
    by_cases trailing : root.toList.getLast? = some '/'
    · obtain ⟨front, hroot⟩ := List.getLast?_eq_some_iff.mp trailing
      rw [if_pos (.inr trailing), hroot, List.append_assoc, List.singleton_append,
        anchor_slash front _ [], names_slash, names_slash]
      simp [names, pieces, component?]
    · rw [if_neg (by simp [empty, trailing]), anchor_append_slash nonempty, names_slash,
        List.append_assoc]

theorem anchor_eq_nil_iff : anchor cs = [] ↔ ∀ c ∈ anchor cs, c.isNormal = true := by
  rw [anchor]
  split
  · simp [Component.isNormal]
  · split <;> simp [Component.isNormal]

theorem isPlain_iff : isPlain path = true ↔
    path ≠ "" ∧ anchor path.toList = [] ∧ ∀ c ∈ names path.toList, c.isNormal = true := by
  simp [isPlain, components_eq, List.all_append, anchor_eq_nil_iff]

theorem components_join_of_normal (root : String)
    (normal : ∀ c ∈ components path, c.isNormal = true) :
    components (join root path) = components root ++ components path := by
  have unanchored : anchor path.toList = [] :=
    anchor_eq_nil_iff.mpr fun c hc => normal c (List.mem_append_left _ hc)
  rw [components_join root unanchored, components_eq path, unanchored, List.nil_append]

theorem isPlain_eq_false : isPlain path = false ↔ path = "" ∨
    .root ∈ components path ∨ .current ∈ components path ∨ .parent ∈ components path := by
  have escaping : (components path).all Component.isNormal = false ↔
      .root ∈ components path ∨ .current ∈ components path ∨ .parent ∈ components path := by
    rw [List.all_eq_false]
    constructor
    · rintro ⟨c, hc, h⟩
      cases c with
      | root => exact .inl hc
      | current => exact .inr (.inl hc)
      | parent => exact .inr (.inr hc)
      | normal => simp [Component.isNormal] at h
    · rintro (h | h | h) <;> exact ⟨_, h, by simp [Component.isNormal]⟩
  rw [isPlain, Bool.and_eq_false_iff, Bool.not_eq_false', String.isEmpty_iff, escaping]

/-! Extensions. -/

theorem eq_normal_of_component? {c : Component} (h : component? cs = some c)
    (normal : c.isNormal = true) : c = .normal (.ofList cs) := by
  rw [component?] at h
  split at h
  · contradiction
  · split at h
    · cases h
      contradiction
    · exact (Option.some_inj.mp h).symm

theorem component?_extended (named : component? last ≠ none) (extension : List Char) :
    component? (last ++ '.' :: extension) =
      some (.normal (.ofList (last ++ '.' :: extension))) := by
  have known := fun h => named (component?_eq_none.mpr h)
  match last with
  | [] => exact absurd (.inl rfl) known
  | [c] =>
    have odd : c ≠ '.' := by
      rintro rfl
      exact known (.inr rfl)
    simp [component?, odd]
  | c :: c' :: more => simp [component?]

theorem dropTail_cases (r : List Char) :
    (∀ rest, dropTail r ≠ '/' :: rest) ∧ ∀ rest, dropTail r ≠ '.' :: '/' :: rest := by
  induction r using dropTail.induct with
  | case1 rest ih => rwa [dropTail]
  | case2 rest ih => rwa [dropTail]
  | case3 r slash dot =>
    rw [dropTail]
    · exact ⟨slash, dot⟩
    · exact slash
    · exact dot

theorem dropTail_names (r : List Char) (h : anchor r.reverse = []) :
    anchor (dropTail r).reverse = [] ∧ names (dropTail r).reverse = names r.reverse := by
  induction r using dropTail.induct with
  | case1 rest ih =>
    rw [List.reverse_cons] at h ⊢
    obtain ⟨unanchored, kept⟩ := ih (anchor_of_slash h)
    rw [dropTail, names_slash, ← kept]
    exact ⟨unanchored, (List.append_nil _).symm⟩
  | case2 rest ih =>
    have split : ('.' :: '/' :: rest).reverse = rest.reverse ++ '/' :: ['.'] := by simp
    rw [split] at h ⊢
    obtain ⟨unanchored, kept⟩ := ih (anchor_of_slash h)
    rw [dropTail, names_slash, ← kept]
    exact ⟨unanchored, (List.append_nil _).symm⟩
  | case3 r slash dot =>
    rw [dropTail]
    · exact ⟨h, rfl⟩
    · exact slash
    · exact dot

theorem names_ne_nil (nonempty : cs ≠ []) (h : anchor cs = []) : names cs ≠ [] := by
  cases cs with
  | nil => contradiction
  | cons c rest =>
    cases hrest : pieces rest with
    | nil => exact absurd hrest (pieces_ne_nil rest)
    | cons piece more =>
      by_cases slash : c = '/'
      · simp [anchor, slash] at h
      · by_cases dot : c :: piece = ['.']
        · simp [anchor, pieces, slash, hrest, dot] at h
        · have named : component? (c :: piece) ≠ none := by simpa [component?_eq_none] using dot
          obtain ⟨name, hname⟩ := Option.ne_none_iff_exists'.mp named
          simp [names, pieces, slash, hrest, hname]

theorem names_of_notMem (h : '/' ∉ cs) : names cs = (component? cs).toList := by
  rw [names, pieces_of_notMem h]
  cases h : component? cs <;> simp [h]

theorem anchor_of_named (bare : '/' ∉ cs) (named : component? cs ≠ none) : anchor cs = [] := by
  have slash : cs.head? ≠ some '/' := fun h => bare (List.mem_of_head? h)
  have dot : cs ≠ ['.'] := fun h => named (component?_eq_none.mpr (.inr h))
  simp [anchor, slash, pieces_of_notMem bare, dot]

/-- A path that neither a slash nor an idle dot ends can be extended in its last name. -/
theorem exists_last_name (unanchored : anchor cs = []) (some_name : names cs ≠ [])
    (normal : ∀ c ∈ names cs, c.isNormal = true) (slash : ∀ rest, cs.reverse ≠ '/' :: rest)
    (dot : ∀ rest, cs.reverse ≠ '.' :: '/' :: rest) :
    ∃ front last, names cs = front ++ [.normal (.ofList last)] ∧
      ∀ extension, '/' ∉ extension → anchor (cs ++ '.' :: extension) = [] ∧
        names (cs ++ '.' :: extension) =
          front ++ [.normal (.ofList (last ++ '.' :: extension))] := by
  obtain ⟨last, bare, rfl | ⟨a, rfl⟩⟩ := exists_last_piece cs
  · rw [names_of_notMem bare] at some_name normal ⊢
    have named : component? cs ≠ none := by
      intro h
      simp [h] at some_name
    obtain ⟨name, hname⟩ := Option.ne_none_iff_exists'.mp named
    have last_name := eq_normal_of_component? hname (normal name (by simp [hname]))
    refine ⟨[], cs, by simp [hname, last_name], fun extension bareExtension => ?_⟩
    have bareWhole : '/' ∉ cs ++ '.' :: extension := by simp [bare, bareExtension]
    have extended := component?_extended named extension
    exact ⟨anchor_of_named bareWhole (by simp [extended]),
      by simp [names_of_notMem bareWhole, extended]⟩
  · have named : component? last ≠ none := by
      intro h
      rcases component?_eq_none.mp h with rfl | rfl
      · exact slash a.reverse (by simp)
      · exact dot a.reverse (by simp)
    obtain ⟨name, hname⟩ := Option.ne_none_iff_exists'.mp named
    rw [names_slash, names_of_notMem bare, hname] at normal ⊢
    have last_name := eq_normal_of_component? hname (normal name (by simp))
    refine ⟨names a, last, by simp [last_name], fun extension bareExtension => ?_⟩
    have bareWhole : '/' ∉ last ++ '.' :: extension := by simp [bare, bareExtension]
    rw [List.append_assoc, List.cons_append, anchor_slash a _ last, names_slash,
      names_of_notMem bareWhole, component?_extended named]
    exact ⟨unanchored, rfl⟩

/-- The extension is put behind the last name, and what comes before it stays. -/
theorem components_addExtension (extension : String) (plain : isPlain path = true)
    (bare : '/' ∉ extension.toList) : ∃ front last, components path = front ++ [.normal last] ∧
      components (addExtension path extension) = front ++ [.normal (last ++ "." ++ extension)] := by
  obtain ⟨nonempty, unanchored, normal⟩ := isPlain_iff.mp plain
  obtain ⟨anchored, kept⟩ := dropTail_names path.toList.reverse (by rwa [List.reverse_reverse])
  obtain ⟨slash, dot⟩ := dropTail_cases path.toList.reverse
  have some_name := names_ne_nil (by simpa using nonempty) unanchored
  rw [List.reverse_reverse] at kept
  rw [← kept] at normal some_name
  obtain ⟨front, last, hnames, further⟩ := exists_last_name anchored some_name normal
    (by simpa using slash) (by simpa using dot)
  obtain ⟨anchored', hnames'⟩ := further extension.toList bare
  refine ⟨front, .ofList last, ?_, ?_⟩
  · rw [components_eq, unanchored, ← kept, hnames, List.nil_append]
  · have extended : (addExtension path extension).toList =
        (dropTail path.toList.reverse).reverse ++ '.' :: extension.toList := by simp [addExtension]
    have last_name : String.ofList (last ++ '.' :: extension.toList) =
        String.ofList last ++ "." ++ extension := by simp [← String.toList_inj]
    rw [components_eq, extended, anchored', hnames', last_name, List.nil_append]

theorem nameExtension?_eq_none {name : List Char} :
    nameExtension? name = none ↔ '.' ∉ name.tail := by
  cases name with
  | nil => simp [nameExtension?]
  | cons c rest =>
    simp only [nameExtension?, List.reverse_cons, List.length_cons, List.tail_cons]
    by_cases dotted : '.' ∈ rest
    · obtain ⟨after, before, split, dotless⟩ :=
        List.eq_append_cons_of_mem (List.mem_reverse.mpr dotted)
      have length := congrArg List.length split
      have passed : ∀ x ∈ after, decide (x ≠ '.') = true := by
        intro x hx
        simpa using ne_of_mem_of_not_mem hx dotless
      rw [split, List.append_assoc, List.takeWhile_append_of_pos passed]
      simp only [List.length_reverse, List.length_append, List.length_cons] at length
      simp [dotted]
      omega
    · have passed : ∀ x ∈ rest.reverse, decide (x ≠ '.') = true := by
        intro x hx
        simpa using ne_of_mem_of_not_mem (List.mem_reverse.mp hx) dotted
      rw [List.takeWhile_append_of_pos passed]
      simp [dotted]

theorem extension?_of_last {front : List Component} {last : String}
    (h : components path = front ++ [.normal last]) :
    extension? path = nameExtension? last.toList := by
  simp [extension?, fileName?, h]

end ScriptMachine.Path
