import Mathlib.Data.List.Basic
import ParcelPricing.Settings.KeyPath

/-! After sources are laid over one another, the last to say something counts. -/
namespace ParcelPricing

namespace Fields

theorem get?_cons (k : String) (v : Setting) (rest : Fields) (name : String) :
    get? ((k, v) :: rest) name = if name = k then some v else rest.get? name := by
  by_cases h : name = k
  · simp [get?, h]
  · have hk : (name == k) = false := beq_eq_false_iff_ne.2 h
    rw [get?, List.lookup_cons, hk, if_neg h]
    rfl

theorem get?_put (fields : Fields) (key name : String) (value : Setting) :
    (fields.put key value).get? name = if name = key then some value else fields.get? name := by
  induction fields with
  | nil => simp only [put, get?_cons]
  | cons field rest ih =>
    obtain ⟨k, v⟩ := field
    rw [put]
    by_cases hk : k = key
    · subst hk
      rw [if_pos rfl, get?_cons, get?_cons]
      by_cases hname : name = k <;> simp [hname]
    · rw [if_neg hk, get?_cons, get?_cons, ih]
      by_cases hname : name = k
      · subst hname
        simp [hk]
      · simp [hname]

end Fields

def KeyStep.chars : KeyStep → List Char
  | .field name => name.toList
  | .item _ => []

namespace KeyPath
variable {path path' : KeyPath} {step : KeyStep} {text rest : List Char} {key key' : String}

/-- A path that reaches into no list. -/
def IsNames (path : KeyPath) : Prop := ∀ step ∈ path, ∃ name, step = .field name

/-- As far as a key goes along a path it reaches into no list. -/
def NamesAlong : KeyPath → KeyPath → Prop
  | [], _ => True
  | .item _ :: _, _ => False
  | .field _ :: _, [] => True
  | .field name :: key, step :: path => step = .field name → NamesAlong key path

theorem IsNames.namesAlong {key : KeyPath} (h : key.IsNames) (path : KeyPath) :
    key.NamesAlong path := by
  induction key generalizing path with
  | nil => trivial
  | cons step key ih =>
    obtain ⟨⟨name, rfl⟩, hnames⟩ := List.forall_mem_cons.1 h
    cases path with
    | nil => trivial
    | cons step' path => exact fun _ => ih hnames path

theorem NamesAlong.of_append {key path : KeyPath} (rest : KeyPath) (h : key.NamesAlong (path ++ rest)) :
    key.NamesAlong path := by
  induction key generalizing path with
  | nil => trivial
  | cons step key ih =>
    cases step with
    | item _ => exact h.elim
    | field name =>
      cases path with
      | nil => trivial
      | cons step' path => exact fun heq => ih (h heq)

/-- A path of names in text. -/
def spelled : KeyPath → List Char
  | [] => []
  | step :: path => step.chars ++ path.flatMap fun step => '.' :: step.chars

theorem readWord?_eq_some (h : readWord? text = some (step, rest)) :
    (∃ name, step = .field name) ∧ text = step.chars ++ rest := by
  unfold readWord? at h
  extract_lets word at h
  split at h
  · cases h
  · simp only [Option.some.injEq, Prod.mk.injEq] at h
    obtain ⟨rfl, rfl⟩ := h
    refine ⟨⟨_, rfl⟩, ?_⟩
    rw [KeyStep.chars, String.toList_ofList]
    exact (List.prefix_iff_eq_append.1 (List.takeWhile_prefix isWordChar)).symm

theorem readPlace?_eq_some (h : readPlace? text = some (step, rest)) :
    ∃ place, step = .item place := by
  unfold readPlace? at h
  extract_lets text negative text' digits place at h
  obtain ⟨-, -, h⟩ := Option.bind_eq_some_iff.1 h
  obtain ⟨-, -, h⟩ := Option.bind_eq_some_iff.1 h
  obtain ⟨rest', -, h⟩ := Option.bind_eq_some_iff.1 h
  cases h
  exact ⟨place, rfl⟩

theorem readSteps?_eq_some {fuel : Nat} (h : readSteps? fuel text = some path) :
    ('[' ∉ text → path.IsNames) ∧
      (path.IsNames → text = path.flatMap fun step => '.' :: step.chars) := by
  fun_induction readSteps? fuel text generalizing path with
  | case1 fuel =>
    obtain rfl := Option.some.inj h
    exact ⟨fun _ step hstep => absurd hstep List.not_mem_nil, fun _ => rfl⟩
  | case2 fuel text ih =>
    simp only [Option.bind_eq_bind, Option.bind_eq_some_iff, Prod.exists] at h
    obtain ⟨step, rest, hword, path, hsteps, hpath⟩ := h
    obtain rfl := Option.some.inj hpath
    obtain ⟨hname, htext⟩ := readWord?_eq_some hword
    obtain ⟨hnames, hspelled⟩ := ih rest hsteps
    constructor
    · intro hbracket
      refine List.forall_mem_cons.2 ⟨hname, hnames fun hmem => hbracket ?_⟩
      rw [htext]
      exact List.mem_cons_of_mem _ (List.mem_append_right _ hmem)
    · intro hpath
      rw [List.flatMap_cons, ← hspelled (List.forall_mem_cons.1 hpath).2, htext, List.cons_append]
  | case3 fuel text ih =>
    simp only [Option.bind_eq_bind, Option.bind_eq_some_iff, Prod.exists] at h
    obtain ⟨step, rest, hplace, path, hsteps, hpath⟩ := h
    obtain rfl := Option.some.inj hpath
    refine ⟨fun hbracket => absurd List.mem_cons_self hbracket, fun hpath => ?_⟩
    obtain ⟨name, rfl⟩ := hpath _ List.mem_cons_self
    obtain ⟨place, hitem⟩ := readPlace?_eq_some hplace
    cases hitem
  | case4 => cases h

theorem read?_eq_some (h : read? text = some path) :
    ('[' ∉ text → path.IsNames) ∧ (path.IsNames → spelled path = text) ∧
      ∃ name steps, path = .field name :: steps := by
  simp only [read?, Option.bind_eq_bind, Option.bind_eq_some_iff, Prod.exists] at h
  obtain ⟨step, rest, hword, path, hsteps, hpath⟩ := h
  obtain rfl := Option.some.inj hpath
  obtain ⟨⟨name, rfl⟩, rfl⟩ := readWord?_eq_some hword
  obtain ⟨hnames, hspelled⟩ := readSteps?_eq_some hsteps
  refine ⟨fun hbracket => ?_, fun hpath => ?_, name, path, rfl⟩
  · exact List.forall_mem_cons.2
      ⟨⟨name, rfl⟩, hnames fun hmem => hbracket (List.mem_append_right _ hmem)⟩
  · rw [spelled, ← hspelled (List.forall_mem_cons.1 hpath).2]

theorem isNames_ofKey (h : '[' ∉ key.toList) : (ofKey key).IsNames := by
  unfold ofKey
  cases hread : read? key.toList with
  | none =>
    intro step hstep
    exact ⟨key, List.mem_singleton.1 hstep⟩
  | some path => exact (read?_eq_some hread).1 h

theorem spelled_ofKey (h : (ofKey key).IsNames) : spelled (ofKey key) = key.toList := by
  unfold ofKey at h ⊢
  cases hread : read? key.toList with
  | none => exact List.append_nil _
  | some path =>
    rw [hread] at h
    exact (read?_eq_some hread).2.1 h

theorem exists_ofKey_eq (key : String) : ∃ name steps, ofKey key = .field name :: steps := by
  unfold ofKey
  cases hread : read? key.toList with
  | none => exact ⟨key, [], rfl⟩
  | some path => exact (read?_eq_some hread).2.2

/-- Keys that spell one path of names are one key. -/
theorem eq_of_ofKey_eq (h : (ofKey key).IsNames) (heq : ofKey key = ofKey key') : key = key' := by
  have hspelled := spelled_ofKey h
  rw [heq, spelled_ofKey (heq ▸ h)] at hspelled
  exact String.toList_injective hspelled.symm

end KeyPath

namespace Setting

/-- What stands at a path of names. -/
def at? : KeyPath → Setting → Option Setting
  | [], s => some s
  | .field name :: path, s => (s.fields.get? name).bind (at? path)
  | .item _ :: _, _ => none

/-- What a setting says about a path when it is laid over another. Of several fields with one name
the last counts that says something. -/
def saying? : KeyPath → Setting → Option Setting
  | [], s => some s
  | .field name :: path, s =>
    s.fields.reverse.findSome? fun field => if field.1 = name then saying? path field.2 else none
  | .item _ :: _, _ => none

/-- There are tables all the way along a path, so that what is laid over with them hides nothing
else at its end. -/
def LeadsOn : KeyPath → Setting → Prop
  | [], _ => True
  | .field name :: path, s =>
    ∃ fields, s = table fields ∧ ∀ field ∈ fields, field.1 = name → LeadsOn path field.2
  | .item _ :: _, _ => False

/-- At a path stands what was said about it, or a table. -/
def Settles (path : KeyPath) (s : Setting) (said : Option Setting) : Prop :=
  s.at? path = said ∨ ∃ fields, s.at? path = some (table fields)

variable {path key : KeyPath} {s base v : Setting} {said : Option Setting} {name : String}

/-- One step down. At the end of the path everything is open. -/
theorem Settles.child (h : Settles (.field name :: path) s said) :
    path = [] ∨ Settles path ((s.fields.get? name).getD absent) said := by
  simp only [Settles, at?] at h
  cases hfield : s.fields.get? name with
  | some value =>
    rw [hfield] at h
    exact Or.inr h
  | none =>
    rw [hfield] at h
    rcases h with hsaid | ⟨fields, htable⟩
    · match path with
      | [] => exact Or.inl rfl
      | .field _ :: _ => exact Or.inr (Or.inl hsaid)
      | .item _ :: _ => exact Or.inr (Or.inl hsaid)
    · cases htable

/-- Fields are laid over one by one, each over what those before it have left, so that the last one
decides. -/
theorem settles_overlayFields {baseFields fields : Fields}
    (hvalue : ∀ {s v said}, path = [] ∨ Settles path s said → LeadsOn path v →
      Settles path (overlay s v) ((saying? path v).or said))
    (hfields : ∀ field ∈ fields, field.1 = name → LeadsOn path field.2)
    (h : Settles (.field name :: path) (table baseFields) said) :
    Settles (.field name :: path) (table (overlayFields baseFields fields))
      ((saying? (.field name :: path) (table fields)).or said) := by
  induction fields generalizing baseFields said with
  | nil => exact h
  | cons field rest ih =>
    obtain ⟨k, value⟩ := field
    obtain ⟨hfield, hrest⟩ := List.forall_mem_cons.1 hfields
    have hput : Settles (.field name :: path)
        (table (baseFields.put k (overlay ((baseFields.get? k).getD absent) value)))
        ((if k = name then saying? path value else none).or said) := by
      simp only [Settles, at?, Setting.fields, Fields.get?_put]
      by_cases hk : name = k
      · subst hk
        rw [if_pos rfl, if_pos rfl]
        exact hvalue h.child (hfield rfl)
      · rw [if_neg hk, if_neg fun hk' => hk hk'.symm]
        exact h
    have hsaying : saying? (.field name :: path) (table ((k, value) :: rest)) =
        (saying? (.field name :: path) (table rest)).or
          (if k = name then saying? path value else none) := by
      simp [saying?, Setting.fields, List.findSome?_append]
    rw [hsaying, Option.or_assoc, overlayFields]
    exact ih hrest hput

theorem settles_overlay (h : path = [] ∨ Settles path s said) (hv : LeadsOn path v) :
    Settles path (overlay s v) ((saying? path v).or said) := by
  induction path generalizing s v said with
  | nil =>
    cases v with
    | table fields => exact Or.inr ⟨_, rfl⟩
    | _ => exact Or.inl rfl
  | cons step path ih =>
    cases step with
    | item _ => exact hv.elim
    | field name =>
      obtain ⟨fields, rfl, hfields⟩ := hv
      have hs : Settles (.field name :: path) (table s.fields) said :=
        h.resolve_left (List.cons_ne_nil _ _)
      exact settles_overlayFields ih hfields hs

/-- What a setting that is laid over at a key says about a path. -/
def sayingAt? (key : KeyPath) (v : Setting) (path : KeyPath) : Option Setting :=
  (path.dropPrefix? key).bind (saying? · v)

theorem settles_change (hkey : key.NamesAlong path) (h : path = [] ∨ Settles path s said)
    (hv : ∀ rest, path.dropPrefix? key = some rest → LeadsOn rest v) :
    Settles path (change (overlay · v) key s) ((sayingAt? key v path).or said) := by
  induction key generalizing path s said with
  | nil =>
    rw [sayingAt?, List.dropPrefix?_nil]
    exact settles_overlay h (hv path List.dropPrefix?_nil)
  | cons step key ih =>
    cases step with
    | item place => exact hkey.elim
    | field name =>
      match path with
      | [] => exact Or.inr ⟨_, rfl⟩
      | .item place :: path => exact h.resolve_left (List.cons_ne_nil _ _)
      | .field other :: path =>
        replace h := h.resolve_left (List.cons_ne_nil _ _)
        by_cases hname : other = name
        · subst hname
          have hdrop : (KeyStep.field other :: path).dropPrefix? (.field other :: key) =
              path.dropPrefix? key := by simp [List.dropPrefix?]
          simp only [sayingAt?, hdrop] at hv ⊢
          simp only [Settles, at?, change, fields, Fields.change, Fields.get?_put, if_pos]
          exact ih (hkey rfl) h.child hv
        · have hdrop : (KeyStep.field other :: path).dropPrefix? (.field name :: key) = none := by
            simp [List.dropPrefix?, hname]
          simp only [sayingAt?, hdrop, Settles, at?, change, fields, Fields.change, Fields.get?_put,
            if_neg hname]
          exact h

end Setting

/-- What a source says about a path. Its keys are paths themselves. -/
def Fields.saying? (source : Fields) (path : KeyPath) : Option Setting :=
  source.reverse.findSome? fun field => Setting.sayingAt? (KeyPath.ofKey field.1) field.2 path

theorem Fields.saying?_cons (field : String × Setting) (rest : Fields) (path : KeyPath) :
    saying? (field :: rest) path =
      (saying? rest path).or (Setting.sayingAt? (KeyPath.ofKey field.1) field.2 path) := by
  simp [saying?, List.findSome?_append]

/-- The keys of a source reach into no list along a path, and what they lead to hides nothing at
its end. -/
def Fields.OpenTo (path : KeyPath) (source : Fields) : Prop :=
  ∀ field ∈ source, (KeyPath.ofKey field.1).NamesAlong path ∧
    ∀ rest, path.dropPrefix? (KeyPath.ofKey field.1) = some rest → Setting.LeadsOn rest field.2

namespace Setting
variable {path : KeyPath} {base : Setting} {said : Option Setting} {source : Fields}

theorem settles_addSource (hsource : source.OpenTo path) (h : Settles path base said) :
    Settles path (base.addSource source) ((source.saying? path).or said) := by
  induction source generalizing base said with
  | nil => exact h
  | cons field rest ih =>
    obtain ⟨⟨hkey, hfield⟩, hrest⟩ := List.forall_mem_cons.1 hsource
    rw [Fields.saying?_cons, Option.or_assoc]
    exact ih hrest (settles_change hkey (Or.inr h) hfield)

theorem settles_foldl_addSource {sources : List Fields}
    (hsources : ∀ source ∈ sources, source.OpenTo path) (h : Settles path base said) :
    Settles path (sources.foldl addSource base)
      ((sources.reverse.findSome? (·.saying? path)).or said) := by
  induction sources generalizing base said with
  | nil => exact h
  | cons source rest ih =>
    obtain ⟨hsource, hrest⟩ := List.forall_mem_cons.1 hsources
    have hsaying : (source :: rest).reverse.findSome? (·.saying? path) =
        (rest.reverse.findSome? (·.saying? path)).or (source.saying? path) := by
      simp [List.findSome?_append]
    rw [hsaying, Option.or_assoc]
    exact ih hrest (settles_addSource hsource h)

end Setting

end ParcelPricing
