import ParcelPricing.Proofs.SettingMeaning
import ParcelPricing.Proofs.SettingPath
import ParcelPricing.Settings.Load

/-! Which source decides on a setting. -/
namespace ParcelPricing

namespace Settings

/-- The settings at the root. -/
def roots : List String := ["service_name", "environment", "pricing", "observability"]

/-- Those of them that have others in them. -/
def groups : List String := ["pricing", "observability"]

/-- The paths of settings: a root, or a name in a group. -/
inductive IsSingle : KeyPath → Prop
  | root {name : String} (h : name ∈ roots) : IsSingle [.field name]
  | inGroup {group : String} (h : group ∈ groups) (name : String) :
      IsSingle [.field group, .field name]

end Settings

namespace Fields

/-- Where a source has something for a group, it is a table. -/
def GroupsAreTables (source : Fields) : Prop :=
  ∀ field ∈ source, field.1 ∈ Settings.groups → field.2.fields?.isSome

/-- No key of a source reaches into a list on the way to another key. -/
def ReachesNoList (source : Fields) (key : String) : Prop :=
  ∀ field ∈ source, (KeyPath.ofKey field.1).NamesAlong (KeyPath.ofKey key)

/-- What the last of several sources that says something says about a key. -/
def lastSaid? (sources : List Fields) (key : String) : Option Setting :=
  sources.reverse.findSome? (·.saying? (KeyPath.ofKey key))

theorem lastSaid?_concat (sources : List Fields) (last : Fields) (key : String) :
    lastSaid? (sources ++ [last]) key =
      (last.saying? (KeyPath.ofKey key)).or (lastSaid? sources key) := by
  rw [lastSaid?, List.reverse_concat, List.findSome?_cons, lastSaid?]
  cases last.saying? (KeyPath.ofKey key) <;> rfl

end Fields

namespace Settings
open Setting
variable {α : Type} {path : KeyPath} {source : Fields} {sources : List Fields}
  {group name : String} {meaning : Setting → Option α} {standard a : α} {s : Setting}
  {said : Option Setting}

theorem ofKey_group (h : group ∈ groups) : KeyPath.ofKey group = [.field group] := by
  revert h group
  decide +kernel

theorem mem_roots_of_mem_groups (h : group ∈ groups) : group ∈ roots := by
  revert h group
  decide

theorem exists_table {v : Setting} (h : v.fields?.isSome) : ∃ inner, v = table inner := by
  cases v with
  | table inner => exact ⟨inner, rfl⟩
  | _ => cases h

theorem eq_append_of_dropPrefix? {key rest : KeyPath} (h : path.dropPrefix? key = some rest) :
    path = key ++ rest := by
  obtain ⟨key', hpath, hkey⟩ := List.dropPrefix?_eq_some_iff.1 h
  rw [hpath, eq_of_beq hkey]

/-- A key that stands before a path begins with the same name. -/
theorem ofKey_of_dropPrefix? {key : String} {steps rest : KeyPath}
    (h : List.dropPrefix? (.field name :: steps) (KeyPath.ofKey key) = some rest) :
    ∃ further, KeyPath.ofKey key = .field name :: further ∧ steps = further ++ rest := by
  obtain ⟨first, further, hkey⟩ := KeyPath.exists_ofKey_eq key
  have hsplit := eq_append_of_dropPrefix? h
  rw [hkey, List.cons_append] at hsplit
  obtain ⟨hfirst, hsteps⟩ := List.cons.inj hsplit
  exact ⟨further, (KeyStep.field.inj hfirst) ▸ hkey, hsteps⟩

/-- The one key that leads to a group and no further is its name. -/
theorem eq_of_ofKey_eq_group {key : String} (hgroup : group ∈ groups)
    (h : KeyPath.ofKey key = [.field group]) : key = group := by
  have hnames : (KeyPath.ofKey key).IsNames := by
    rw [h]
    exact List.forall_mem_singleton.2 ⟨group, rfl⟩
  exact KeyPath.eq_of_ofKey_eq hnames (h.trans (ofKey_group hgroup).symm)

/-- A key that stands before a setting names that setting or its group. -/
theorem openTo_single (hpath : IsSingle path) (htables : source.GroupsAreTables)
    (hnames : ∀ field ∈ source, (KeyPath.ofKey field.1).NamesAlong path) : source.OpenTo path := by
  refine fun field hfield => ⟨hnames field hfield, fun rest hrest => ?_⟩
  cases hpath with
  | root hroot =>
    obtain ⟨further, -, hend⟩ := ofKey_of_dropPrefix? hrest
    obtain ⟨-, rfl⟩ := List.append_eq_nil_iff.1 hend.symm
    trivial
  | inGroup hgroup name =>
    obtain ⟨further, hkey, hend⟩ := ofKey_of_dropPrefix? hrest
    cases further with
    | nil =>
      obtain rfl := hend
      have heq := eq_of_ofKey_eq_group hgroup hkey
      obtain ⟨inner, hinner⟩ := exists_table (htables field hfield (heq ▸ hgroup))
      exact ⟨inner, hinner, fun _ _ _ => trivial⟩
    | cons second further =>
      obtain ⟨-, rfl⟩ := List.append_eq_nil_iff.1 (List.cons.inj hend).2.symm
      trivial

/-- At a single setting stands what the last source said about it, or a table. -/
theorem settles_overlaid (hpath : IsSingle path) (hopen : ∀ source ∈ sources, source.OpenTo path) :
    Settles path (overlaid sources) (sources.reverse.findSome? (·.saying? path)) := by
  have hnothing : Settles path (table []) none := by
    cases hpath <;> exact Or.inl rfl
  simpa [overlaid] using settles_foldl_addSource hopen hnothing

/-- No key stands before the whole of the settings. -/
theorem dropPrefix?_ofKey_nil (key : String) :
    ([] : KeyPath).dropPrefix? (KeyPath.ofKey key) = none := by
  obtain ⟨first, steps, hkey⟩ := KeyPath.exists_ofKey_eq key
  rw [hkey, List.dropPrefix?]

theorem openTo_nil (source : Fields) : source.OpenTo [] := by
  intro field _
  refine ⟨?_, fun rest hrest => ?_⟩
  · obtain ⟨first, steps, hkey⟩ := KeyPath.exists_ofKey_eq field.1
    rw [hkey]
    trivial
  · rw [dropPrefix?_ofKey_nil] at hrest
    cases hrest

theorem overlaid_eq_table (sources : List Fields) : ∃ fields, overlaid sources = table fields := by
  have hsaid : sources.reverse.findSome? (·.saying? []) = none := by
    simp [Fields.saying?, sayingAt?, dropPrefix?_ofKey_nil]
  have hsettles := settles_foldl_addSource (fun source (_ : source ∈ sources) => openTo_nil source)
    (Or.inr ⟨[], rfl⟩ : Settles [] (table []) none)
  rw [hsaid] at hsettles
  obtain hnone | ⟨fields, hfields⟩ := hsettles
  · cases hnone
  · exact ⟨fields, Option.some.inj hfields⟩

/-- What a source says about a group is a table. -/
theorem exists_table_of_saying? {v : Setting} (htables : source.GroupsAreTables)
    (hgroup : group ∈ groups) (h : source.saying? [.field group] = some v) :
    ∃ inner, v = table inner := by
  obtain ⟨field, hfield, hsaying⟩ := List.exists_of_findSome?_eq_some h
  obtain ⟨rest, hrest, hv⟩ := Option.bind_eq_some_iff.1 hsaying
  obtain ⟨further, hkey, hend⟩ := ofKey_of_dropPrefix? hrest
  obtain ⟨rfl, rfl⟩ := List.append_eq_nil_iff.1 hend.symm
  have heq := eq_of_ofKey_eq_group hgroup hkey
  obtain rfl := Option.some.inj hv
  exact exists_table (htables field (List.mem_reverse.1 hfield) (heq ▸ hgroup))

theorem at?_name (fields : Fields) (name : String) :
    (table fields).at? [.field name] = fields.get? name := by
  simp [at?, Setting.fields]

/-- What is set for a group is a table, and so has a value for each of its settings. -/
theorem read?_group {fields : Fields} (htables : ∀ source ∈ sources, source.GroupsAreTables)
    (hopen : ∀ source ∈ sources, source.OpenTo [.field group])
    (hfields : overlaid sources = table fields) (hgroup : group ∈ groups)
    (hempty : meaning (table []) = some standard) :
    ∃ inner : Fields, fields.read? group meaning standard = meaning (table inner) ∧
      ∀ name, (table fields).at? [.field group, .field name] = inner.get? name := by
  have hgives : fields.get? group = none ∨ ∃ inner, fields.get? group = some (table inner) := by
    rw [← at?_name, ← hfields]
    rcases settles_overlaid (.root (mem_roots_of_mem_groups hgroup)) hopen with hsaid | htable
    · rw [hsaid]
      cases hlast : sources.reverse.findSome? (·.saying? [.field group]) with
      | none => exact Or.inl rfl
      | some v =>
        obtain ⟨source, hsource, hsaying⟩ := List.exists_of_findSome?_eq_some hlast
        obtain ⟨inner, rfl⟩ := exists_table_of_saying?
          (htables source (List.mem_reverse.1 hsource)) hgroup hsaying
        exact Or.inr ⟨inner, rfl⟩
    · exact Or.inr htable
  rcases hgives with hnone | ⟨inner, hinner⟩
  · refine ⟨[], ?_, fun name => ?_⟩
    · rw [Fields.read?, hnone, hempty]
    · simp only [at?, Setting.fields, hnone]
      rfl
  · refine ⟨inner, ?_, fun name => ?_⟩
    · rw [Fields.read?, hinner]
    · simp [at?, Setting.fields, hinner]

/-- A value that could be read is what was said last, for it is no table. -/
theorem elim_lastSaid? {key : String} (hkey : IsSingle (KeyPath.ofKey key))
    (hopen : ∀ source ∈ sources, source.OpenTo (KeyPath.ofKey key))
    (htable : ∀ fields, meaning (table fields) = none) {fields : Fields}
    (hget : (overlaid sources).at? (KeyPath.ofKey key) = fields.get? name)
    (hread : fields.read? name meaning standard = some a) :
    (Fields.lastSaid? sources key).elim (some standard) meaning = some a := by
  have hvalue : ((overlaid sources).at? (KeyPath.ofKey key)).elim (some standard) meaning =
      some a := by
    rw [hget, ← hread, Fields.read?]
    cases fields.get? name <;> rfl
  rcases settles_overlaid hkey hopen with hsaid | ⟨inner, hinner⟩
  · rw [Fields.lastSaid?, ← hsaid]
    exact hvalue
  · rw [hinner, Option.elim_some, htable] at hvalue
    cases hvalue

/-- The single settings. -/
inductive Single where
  | service
  | environment
  | ceiling
  | providers
  | sizes
  | prices
  | level
  | format

def Single.key : Single → String
  | service => "service_name"
  | environment => "environment"
  | ceiling => "pricing.max_monthly_discount"
  | providers => "pricing.known_providers"
  | sizes => "pricing.known_package_sizes"
  | prices => "pricing.prices"
  | level => "observability.log_level"
  | format => "observability.log_format"

/-- One of the settings has the value of what is said about it. -/
def HasValue (s : Settings) (said : Option Setting) : Single → Prop
  | .service => Decides MeansText "" said s.service
  | .environment => Decides MeansText "" said s.environment
  | .ceiling => Decides MeansAmount 10.0 said s.tariff.ceiling
  | .providers => Decides (MeansList MeansText) ["LP", "MR"] said s.tariff.providers
  | .sizes => Decides (MeansList MeansText) ["S", "M", "L"] said s.tariff.sizes
  | .prices => Decides (MeansList MeansPrice)
      [⟨"LP", "S", 1.5⟩, ⟨"LP", "M", 4.9⟩, ⟨"LP", "L", 6.9⟩, ⟨"MR", "S", 2.0⟩, ⟨"MR", "M", 3.0⟩,
        ⟨"MR", "L", 4.0⟩] said s.tariff.prices
  | .level => Decides MeansText "warn" said s.log.level
  | .format => Decides MeansText "pretty" said s.log.format

/-- What the settings of a tariff make of it. -/
theorem read?_of_tariff? {fields : Fields} {t : Tariff Float}
    (h : tariff? (table fields) = some t) :
    let codes := asList? asText?
    let usual : Tariff Float := .standard
    fields.read? "max_monthly_discount" asAmount? usual.ceiling = some t.ceiling ∧
      fields.read? "known_providers" codes usual.providers = some t.providers ∧
      fields.read? "known_package_sizes" codes usual.sizes = some t.sizes ∧
      fields.read? "prices" (asList? priceLine?) usual.prices = some t.prices := by
  simp only [tariff?, asRecord?, Option.bind_eq_bind, Option.bind_some,
    Option.bind_eq_some_iff] at h
  obtain ⟨ceiling, hceiling, providers, hproviders, sizes, hsizes, prices, hprices, ht⟩ := h
  obtain rfl := Option.some.inj ht
  exact ⟨hceiling, hproviders, hsizes, hprices⟩

theorem read?_of_log? {fields : Fields} {log : LogSettings} (h : log? (table fields) = some log) :
    fields.read? "log_level" asText? LogSettings.standard.level = some log.level ∧
      fields.read? "log_format" asText? LogSettings.standard.format = some log.format := by
  simp only [log?, asRecord?, Option.bind_eq_bind, Option.bind_some, Option.bind_eq_some_iff] at h
  obtain ⟨level, hlevel, format, hformat, hlog⟩ := h
  obtain rfl := Option.some.inj hlog
  exact ⟨hlevel, hformat⟩

section
variable {fields : Fields} {means : Setting → α → Prop} {single : Single}
  (htables : ∀ source ∈ sources, source.GroupsAreTables)
  (hnames : ∀ source ∈ sources, source.ReachesNoList single.key)
  (hfields : overlaid sources = table fields)
  (hmeans : ∀ {s value}, meaning s = some value ↔ means s value)
  (htable : ∀ fields, meaning (table fields) = none)
include htables hnames hfields hmeans htable

theorem decides_root (hkey : KeyPath.ofKey single.key = [.field name]) (hroot : name ∈ roots)
    (hread : fields.read? name meaning standard = some a) :
    Decides means standard (Fields.lastSaid? sources single.key) a := by
  have hsingle : IsSingle (KeyPath.ofKey single.key) := hkey ▸ .root hroot
  have hopen := fun source hsource =>
    openTo_single hsingle (htables source hsource) (hnames source hsource)
  exact (decides_iff hmeans).1 (elim_lastSaid? hsingle hopen htable
    (by rw [hkey, hfields, at?_name]) hread)

theorem decides_inGroup {β : Type} {groupMeaning : Setting → Option β} {groupStandard b : β}
    (hkey : KeyPath.ofKey single.key = [.field group, .field name]) (hgroup : group ∈ groups)
    (hempty : groupMeaning (table []) = some groupStandard)
    (hread : fields.read? group groupMeaning groupStandard = some b)
    (hinner : ∀ {inner : Fields}, groupMeaning (table inner) = some b →
      inner.read? name meaning standard = some a) :
    Decides means standard (Fields.lastSaid? sources single.key) a := by
  have hsingle : IsSingle (KeyPath.ofKey single.key) := hkey ▸ .inGroup hgroup name
  have hopen := fun source hsource =>
    openTo_single hsingle (htables source hsource) (hnames source hsource)
  have hopenGroup : ∀ source ∈ sources, source.OpenTo [.field group] := fun source hsource =>
    openTo_single (.root (mem_roots_of_mem_groups hgroup)) (htables source hsource)
      fun field hfield => by
        have hnames := hnames source hsource field hfield
        rw [hkey] at hnames
        exact hnames.of_append [.field name]
  obtain ⟨inner, hgroupRead, hget⟩ := read?_group htables hopenGroup hfields hgroup hempty
  exact (decides_iff hmeans).1 (elim_lastSaid? hsingle hopen htable
    (by rw [hkey, hfields, hget]) (hinner (hgroupRead.symm.trans hread)))

end

theorem hasValue_of_overlaid {settings : Settings} {single : Single}
    (htables : ∀ source ∈ sources, source.GroupsAreTables)
    (hnames : ∀ source ∈ sources, source.ReachesNoList single.key)
    (h : ofSetting? (overlaid sources) = some settings) :
    settings.HasValue (Fields.lastSaid? sources single.key) single := by
  obtain ⟨fields, hfields⟩ := overlaid_eq_table sources
  rw [hfields] at h
  simp only [ofSetting?, asRecord?, Option.bind_eq_bind, Option.bind_some,
    Option.bind_eq_some_iff] at h
  obtain ⟨service, hservice, environment, henvironment, tariff, htariff, log, hlog, hsettings⟩ := h
  obtain rfl := Option.some.inj hsettings
  have htariffOfNothing : tariff? (table []) = some .standard := rfl
  have hlogOfNothing : log? (table []) = some .standard := rfl
  cases single with
  | service =>
    exact decides_root htables hnames hfields asText?_iff (fun _ => rfl) (by decide +kernel)
      (by decide) hservice
  | environment =>
    exact decides_root htables hnames hfields asText?_iff (fun _ => rfl) (by decide +kernel)
      (by decide) henvironment
  | ceiling =>
    exact decides_inGroup htables hnames hfields asAmount?_iff (fun _ => rfl) (by decide +kernel)
      (by decide) htariffOfNothing htariff fun h => (read?_of_tariff? h).1
  | providers =>
    exact decides_inGroup htables hnames hfields (asList?_iff asText?_iff) (fun _ => rfl)
      (by decide +kernel) (by decide) htariffOfNothing htariff fun h => (read?_of_tariff? h).2.1
  | sizes =>
    exact decides_inGroup htables hnames hfields (asList?_iff asText?_iff) (fun _ => rfl)
      (by decide +kernel) (by decide) htariffOfNothing htariff fun h => (read?_of_tariff? h).2.2.1
  | prices =>
    exact decides_inGroup htables hnames hfields (asList?_iff priceLine?_iff) (fun _ => rfl)
      (by decide +kernel) (by decide) htariffOfNothing htariff fun h => (read?_of_tariff? h).2.2.2
  | level =>
    exact decides_inGroup htables hnames hfields asText?_iff (fun _ => rfl) (by decide +kernel)
      (by decide) hlogOfNothing hlog fun h => (read?_of_log? h).1
  | format =>
    exact decides_inGroup htables hnames hfields asText?_iff (fun _ => rfl) (by decide +kernel)
      (by decide) hlogOfNothing hlog fun h => (read?_of_log? h).2

/-- What is no table has no fields, so a variable says nothing beyond its key. -/
theorem fields_ofVariableText (text : String) : (ofVariableText text).fields = [] := by
  unfold ofVariableText
  dsimp only
  split
  · rfl
  · split
    · rfl
    · split <;> rfl

theorem eq_of_nameLetter_eq {c : Char} (h : nameLetter c = '[') : c = '[' := by
  unfold nameLetter at h
  split at h
  · cases h
  · unfold Char.toLower at h
    split at h
    · -- A capital letter becomes a small one, which is no bracket.
      rename_i hcapital
      have hsum := congrArg (fun c => c.val.toNat) h
      have hlow := UInt32.le_iff_toNat_le.1 hcapital.1
      have hhigh := UInt32.le_iff_toNat_le.1 hcapital.2
      simp [UInt32.toNat_add] at hsum hlow hhigh
      omega
    · exact h

theorem mem_of_mem_pointed {text : List Char} (h : '[' ∈ pointed text) : '[' ∈ text := by
  fun_induction pointed text with
  | case1 rest ih =>
    have hrest := (List.mem_cons.1 h).resolve_left (by decide)
    exact List.mem_cons_of_mem _ (List.mem_cons_of_mem _ (ih hrest))
  | case2 c rest _ ih =>
    rcases List.mem_cons.1 h with rfl | hrest
    · exact List.mem_cons_self
    · exact List.mem_cons_of_mem _ (ih hrest)
  | case3 => exact h

/-- The key of a variable reaches into a list only if the name of the variable does. -/
theorem isNames_of_keyOfVariable? {variableName key : String} (hname : '[' ∉ variableName.toList)
    (h : keyOfVariable? variableName = some key) : (KeyPath.ofKey key).IsNames := by
  refine KeyPath.isNames_ofKey fun hkey => hname ?_
  unfold keyOfVariable? at h
  dsimp only at h
  split at h
  · obtain rfl := Option.some.inj h
    rw [String.toList_ofList] at hkey
    obtain ⟨c, hc, hletter⟩ := List.mem_map.1 (List.mem_of_mem_drop (mem_of_mem_pointed hkey))
    exact eq_of_nameLetter_eq hletter ▸ hc
  · cases h

/-- A plain value says something about its own key only. -/
theorem sayingAt?_ofKey {k key : String} {v : Setting} (hk : (KeyPath.ofKey k).IsNames)
    (hv : v.fields = []) :
    sayingAt? (KeyPath.ofKey k) v (KeyPath.ofKey key) = if key = k then some v else none := by
  rw [sayingAt?]
  by_cases hkey : key = k
  · subst hkey
    have hself : (KeyPath.ofKey key).dropPrefix? (KeyPath.ofKey key) = some [] :=
      List.dropPrefix?_eq_some_iff.2 ⟨_, (List.append_nil _).symm, BEq.rfl⟩
    rw [hself, if_pos rfl, Option.bind_some, saying?]
  · rw [if_neg hkey]
    cases hrest : (KeyPath.ofKey key).dropPrefix? (KeyPath.ofKey k) with
    | none => rfl
    | some rest =>
      have hsplit := eq_append_of_dropPrefix? hrest
      cases rest with
      | nil =>
        rw [List.append_nil] at hsplit
        exact absurd (KeyPath.eq_of_ofKey_eq hk hsplit.symm).symm hkey
      | cons step rest =>
        cases step with
        | field name => simp [saying?, hv]
        | item place => rfl

/-- Of a source with plain values, each key once, a key says what it holds. -/
theorem saying?_ofKey {key : String}
    (hplain : ∀ field ∈ source, (KeyPath.ofKey field.1).IsNames ∧ field.2.fields = [])
    (hnodup : (source.map Prod.fst).Nodup) :
    source.saying? (KeyPath.ofKey key) = source.get? key := by
  induction source with
  | nil => rfl
  | cons field rest ih =>
    obtain ⟨⟨hnames, hvalue⟩, hrest⟩ := List.forall_mem_cons.1 hplain
    obtain ⟨hfield, hnodup⟩ := List.nodup_cons.1 hnodup
    rw [Fields.saying?_cons, ih hrest hnodup, sayingAt?_ofKey hnames hvalue, Fields.get?_cons]
    by_cases hkey : key = field.1
    · have hnone : Fields.get? rest key = none := by
        refine List.lookup_eq_none_iff.2 fun other hother => bne_iff_ne.2 fun hname => hfield ?_
        rw [← hkey, hname]
        exact List.mem_map_of_mem hother
      rw [hnone, if_pos hkey, Option.none_or]
    · rw [if_neg hkey, if_neg hkey, Option.or_none]

theorem bind_eq_ok {fault β γ : Type} {result : Except fault β} {f : β → Except fault γ} {c : γ} :
    result >>= f = .ok c ↔ ∃ b, result = .ok b ∧ f b = .ok c := by
  cases result <;> simp [bind, Except.bind]

theorem load_eq_ok {read : FileReader} {env : Variables} {directory service : String}
    {settings : Settings} (h : load read env directory service = .ok settings) :
    ∃ usual staged own, readFile read (within directory "default.toml") = .ok usual ∧
      readFile read (within directory (environmentOf env ++ ".toml")) = .ok staged ∧
      readFile read (within directory (service ++ ".toml")) = .ok own ∧
      ofSetting? (overlaid [givenNames (environmentOf env) service, usual, staged, own,
        ofVariables env]) = some settings := by
  simp only [load, fileNames, List.mapM_cons, List.mapM_nil, bind_eq_ok] at h
  obtain ⟨files, ⟨usual, husual, later, ⟨staged, hstaged, last, ⟨own, hown, none, hnone, hlast⟩,
    hlater⟩, hfiles⟩, hsettings⟩ := h
  cases hnone
  cases hlast
  cases hlater
  cases hfiles
  refine ⟨usual, staged, own, husual, hstaged, hown, ?_⟩
  cases hvalue : ofSetting? (overlaid [givenNames (environmentOf env) service, usual, staged, own,
      ofVariables env]) with
  | some value =>
    simp only [List.cons_append, List.nil_append, hvalue] at hsettings
    exact congrArg some (Except.ok.inj hsettings)
  | none =>
    simp only [List.cons_append, List.nil_append, hvalue] at hsettings
    cases hsettings

theorem exists_of_isSome_toOption {fault β : Type} {result : Except fault β}
    (h : result.toOption.isSome) : ∃ b, result = .ok b := by
  cases result with
  | error _ => cases h
  | ok b => exact ⟨b, rfl⟩

theorem eq_getD_toOption {fault : Type} {file : Fields} {result : Except fault Fields}
    (h : result = .ok file) : file = result.toOption.getD [] := by
  rw [h]
  rfl

theorem not_mem_of_mem_givenNames {environment service : String} :
    ∀ field ∈ givenNames environment service, '[' ∉ field.1.toList ∧ field.1 ∉ groups := by
  have hkeys : ∀ key ∈ ["service_name", "environment"], '[' ∉ key.toList ∧ key ∉ groups := by
    decide +kernel
  exact fun field hfield => hkeys field.1 (List.mem_map_of_mem (f := Prod.fst) hfield)

variable {read : FileReader} {env : Variables} {directory service : String} {settings : Settings}

theorem plain_ofVariables
    (hnames : ∀ v ∈ env, (keyOfVariable? v.1).isSome → '[' ∉ v.1.toList) :
    ∀ field ∈ ofVariables env, (KeyPath.ofKey field.1).IsNames ∧ field.2.fields = [] := by
  intro field hfield
  obtain ⟨v, hv, hfield⟩ := List.mem_filterMap.1 hfield
  obtain ⟨key, hkey, rfl⟩ := Option.map_eq_some_iff.1 hfield
  have hname := hnames v hv (Option.isSome_of_eq_some hkey)
  exact ⟨isNames_of_keyOfVariable? hname hkey, fields_ofVariableText v.2⟩

theorem reachesNoList_of_keys (h : ∀ field ∈ source, '[' ∉ field.1.toList) (key : String) :
    source.ReachesNoList key :=
  fun field hfield => (KeyPath.isNames_ofKey (h field hfield)).namesAlong _

end Settings

end ParcelPricing
