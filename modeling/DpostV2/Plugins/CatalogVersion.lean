import DpostV2.Lib.Separated
import DpostV2.Plugins.Catalog

/-!
# The version of a catalog

What the hashed text says of the catalog. The flags at the end of a record show where the next
one begins, so that the text can be read back when no field has a separator in it; over an
alphabet with a separator it cannot (`versions_distinguish_iff`).
-/

namespace DpostV2.PluginCatalog

open Plugins hiding PluginDescriptor PluginCatalogSnapshot
open Plugins.Discovery (PluginDescriptor)

/-- What the version is to tell apart. -/
structure Row where
  pluginId : String
  family : PluginFamily
  version : String
  contractVersion : String
  supportedProfiles : List String
  capabilities : PluginCapabilities
  deriving DecidableEq

def rowOf (d : PluginDescriptor) : Row where
  pluginId := d.pluginId
  family := d.family
  version := d.version
  contractVersion := d.contractVersion
  supportedProfiles := d.supportedProfiles
  capabilities := d.capabilities

def PluginCatalogSnapshot.rows (c : PluginCatalogSnapshot) : List Row := c.descriptors.map rowOf

/-- No field of the text has a separator in it. -/
structure Separated (d : PluginDescriptor) : Prop where
  pluginId : '|' ∉ d.pluginId.toList
  version : '|' ∉ d.version.toList
  contractVersion : '|' ∉ d.contractVersion.toList
  profiles : ∀ p ∈ d.supportedProfiles, p ≠ "" ∧ '|' ∉ p.toList ∧ ',' ∉ p.toList

-- ---------------------------------------------------------------------------
-- Reading the text back
-- ---------------------------------------------------------------------------

def capabilityText (flags : PluginCapabilities) : List Char :=
  (flagText flags.canProcess).toList ++ '|' :: ((flagText flags.supportsPreprocess).toList ++ '|' ::
    ((flagText flags.supportsBatch).toList ++ '|' :: (flagText flags.supportsSync).toList))

theorem versionText_toList (d : PluginDescriptor) : (versionText d).toList =
    d.pluginId.toList ++ '|' :: (d.family.text.toList ++ '|' :: (d.version.toList ++ '|' ::
      (d.contractVersion.toList ++ '|' ::
        ((String.intercalate "," d.supportedProfiles).toList ++ '|' ::
          capabilityText d.capabilities)))) := by
  simp [versionText, capabilityText, String.toList_append]

theorem flagText_inj {a b : Bool} {s t : List Char}
    (h : (flagText a).toList ++ s = (flagText b).toList ++ t) : a = b ∧ s = t := by
  cases a <;> cases b
  · exact ⟨rfl, List.append_cancel_left h⟩
  · exact absurd (List.cons.inj h).1 (by decide)
  · exact absurd (List.cons.inj h).1 (by decide)
  · exact ⟨rfl, List.append_cancel_left h⟩

theorem flagText_separated (b : Bool) : '|' ∉ (flagText b).toList := by
  cases b <;> decide

theorem familyText_separated (family : PluginFamily) : '|' ∉ family.text.toList := by
  cases family <;> decide

theorem familyText_inj {f g : PluginFamily} (h : f.text.toList = g.text.toList) : f = g := by
  cases f <;> cases g
  · rfl
  · exact absurd h (by decide)
  · exact absurd h (by decide)
  · rfl

/-- The flags are read off whatever follows them. -/
theorem capabilityText_inj {a b : PluginCapabilities} {s t : List Char}
    (h : capabilityText a ++ s = capabilityText b ++ t) : a = b ∧ s = t := by
  simp only [capabilityText, List.append_assoc, List.cons_append] at h
  obtain ⟨h1, h⟩ := separated_inj (flagText_separated _) (flagText_separated _) h
  obtain ⟨h2, h⟩ := separated_inj (flagText_separated _) (flagText_separated _) h
  obtain ⟨h3, h⟩ := separated_inj (flagText_separated _) (flagText_separated _) h
  obtain ⟨hsync, hrest⟩ := flagText_inj h
  have hflag : ∀ {x y : Bool}, (flagText x).toList = (flagText y).toList → x = y :=
    fun hxy => (flagText_inj (s := []) (t := []) (by simpa using hxy)).1
  cases a
  cases b
  obtain rfl := hflag h1
  obtain rfl := hflag h2
  obtain rfl := hflag h3
  obtain rfl := hsync
  exact ⟨rfl, hrest⟩

theorem joined_separated {sep : Char} {c : Char} (hne : sep ≠ c) {texts : List String}
    (h : ∀ p ∈ texts, sep ∉ p.toList) :
    sep ∉ (String.intercalate (String.singleton c) texts).toList := by
  induction texts with
  | nil => simp
  | cons p texts ih =>
    have hrest := ih fun q hq => h q (List.mem_cons_of_mem _ hq)
    cases texts with
    | nil => simpa using h p (List.mem_cons_self ..)
    | cons q texts =>
      rw [String.intercalate_cons_cons]
      simp only [String.toList_append, String.toList_singleton, List.mem_append, List.mem_singleton,
        not_or]
      exact ⟨⟨h p (List.mem_cons_self ..), hne⟩, hrest⟩

/-- A record is read off the texts after it. -/
theorem versionText_inj {d d' : PluginDescriptor} (hd : Separated d) (hd' : Separated d')
    {s t : List Char} (h : (versionText d).toList ++ s = (versionText d').toList ++ t) :
    rowOf d = rowOf d' ∧ s = t := by
  have hcomma : String.singleton ',' = "," := rfl
  have hblob : ∀ {e : PluginDescriptor}, Separated e →
      '|' ∉ (String.intercalate "," e.supportedProfiles).toList := fun he =>
    hcomma ▸ joined_separated (by decide) fun p hp => (he.profiles p hp).2.1
  simp only [versionText_toList, List.append_assoc, List.cons_append] at h
  obtain ⟨hid, h⟩ := separated_inj hd.pluginId hd'.pluginId h
  obtain ⟨hfamily, h⟩ := separated_inj (familyText_separated _) (familyText_separated _) h
  obtain ⟨hversion, h⟩ := separated_inj hd.version hd'.version h
  obtain ⟨hcontract, h⟩ := separated_inj hd.contractVersion hd'.contractVersion h
  obtain ⟨hprofiles, h⟩ := separated_inj (hblob hd) (hblob hd') h
  obtain ⟨hflags, hrest⟩ := capabilityText_inj h
  have hprofiles : d.supportedProfiles = d'.supportedProfiles :=
    joined_injective_nonempty (c := ',') (fun p hp => (hd.profiles p hp).1)
      (fun p hp => (hd'.profiles p hp).1) (fun p hp => (hd.profiles p hp).2.2)
      (fun p hp => (hd'.profiles p hp).2.2) (String.toList_injective hprofiles)
  refine ⟨?_, hrest⟩
  simp only [rowOf, String.toList_injective hid, familyText_inj hfamily,
    String.toList_injective hversion, String.toList_injective hcontract, hprofiles, hflags]

theorem catalogText_cons (d : PluginDescriptor) (ds : List PluginDescriptor) :
    (catalogText (d :: ds)).toList = (versionText d).toList ++ (catalogText ds).toList := by
  simp [catalogText, String.join_cons]

theorem versionText_ne_nil (d : PluginDescriptor) : (versionText d).toList ≠ [] := by
  simp [versionText_toList]

/-- The text of separated descriptors shows their rows. -/
theorem catalogText_inj {ds ds' : List PluginDescriptor} (hds : ∀ d ∈ ds, Separated d)
    (hds' : ∀ d ∈ ds', Separated d) (h : catalogText ds = catalogText ds') :
    ds.map rowOf = ds'.map rowOf := by
  induction ds generalizing ds' with
  | nil =>
    cases ds' with
    | nil => rfl
    | cons d' ds' =>
      have hnil := congrArg String.toList h
      rw [catalogText_cons] at hnil
      exact absurd (List.append_eq_nil_iff.mp hnil.symm).1 (versionText_ne_nil d')
  | cons d ds ih =>
    have htext := congrArg String.toList h
    cases ds' with
    | nil =>
      rw [catalogText_cons] at htext
      exact absurd (List.append_eq_nil_iff.mp htext).1 (versionText_ne_nil d)
    | cons d' ds' =>
      rw [catalogText_cons, catalogText_cons] at htext
      obtain ⟨hrow, hrest⟩ := versionText_inj (hds d (List.mem_cons_self ..))
        (hds' d' (List.mem_cons_self ..)) htext
      rw [List.map_cons, List.map_cons, hrow,
        ih (fun e he => hds e (List.mem_cons_of_mem _ he))
          (fun e he => hds' e (List.mem_cons_of_mem _ he)) (String.toList_injective hrest)]

theorem versionText_congr {d d' : PluginDescriptor} (h : rowOf d = rowOf d') :
    versionText d = versionText d' := by
  simp only [rowOf, Row.mk.injEq] at h
  obtain ⟨hid, hfamily, hversion, hcontract, hprofiles, hflags⟩ := h
  simp only [versionText, hid, hfamily, hversion, hcontract, hprofiles, hflags]

theorem catalogText_congr {ds ds' : List PluginDescriptor} (h : ds.map rowOf = ds'.map rowOf) :
    catalogText ds = catalogText ds' := by
  have hforall : List.Forall₂ (fun d d' => rowOf d = rowOf d') ds ds' :=
    List.forall₂_map_left_iff.mp (List.forall₂_map_right_iff.mp (h ▸ List.forall₂_refl _))
  exact congrArg String.join (List.forall₂_eq_eq_eq ▸
    List.forall₂_map_left_iff.mpr (List.forall₂_map_right_iff.mpr (hforall.imp fun _ _ =>
      versionText_congr)))

-- ---------------------------------------------------------------------------
-- Two catalogs
-- ---------------------------------------------------------------------------

section
variable [Interpreter]

/-- The digest of the two texts is not the same, unless they are. -/
def NoCollision (s t : String) : Prop :=
  Interpreter.textDigest s = Interpreter.textDigest t → s = t

/-- The versions are equal where the rows are, and a refresh takes the other's token nowhere
else. -/
def TellsApart (c c' : PluginCatalogSnapshot) : Prop :=
  (c.version = c'.version ↔ c.rows = c'.rows) ∧
    ∀ newDescriptors, (∃ refreshed,
      refreshCatalog c newDescriptors (some c'.version) = .ok refreshed) → c.rows = c'.rows

theorem version_of_build {ds : List PluginDescriptor} {c : PluginCatalogSnapshot}
    (h : buildCatalog ds = .ok c) :
    c.version = Interpreter.textDigest (catalogText c.descriptors) ∧ c.descriptors.Perm ds := by
  obtain ⟨byId, hindex, rfl⟩ := indexed_of_build h
  exact ⟨rfl, ordered_perm ds⟩

/-- Only the current version is taken for a refresh. -/
theorem refresh_version {c : PluginCatalogSnapshot} {newDescriptors : List PluginDescriptor}
    {token : String} {refreshed : PluginCatalogSnapshot × CatalogDiff}
    (h : refreshCatalog c newDescriptors (some token) = .ok refreshed) : c.version = token := by
  unfold refreshCatalog at h
  split at h
  · exact nomatch h
  next htoken =>
    have hsame : token = c.version := by simpa using htoken
    exact hsame.symm

section
variable {ds ds' : List PluginDescriptor} {c c' : PluginCatalogSnapshot}
  (hc : buildCatalog ds = .ok c) (hc' : buildCatalog ds' = .ok c')
include hc hc'

theorem version_of_rows (h : c.rows = c'.rows) : c.version = c'.version := by
  rw [(version_of_build hc).1, (version_of_build hc').1, catalogText_congr h]

theorem tellsApart_of_separated (hds : ∀ d ∈ ds, Separated d) (hds' : ∀ d ∈ ds', Separated d)
    (hdigest : NoCollision (catalogText c.descriptors) (catalogText c'.descriptors)) :
    TellsApart c c' := by
  obtain ⟨hversion, hperm⟩ := version_of_build hc
  obtain ⟨hversion', hperm'⟩ := version_of_build hc'
  have hrows : c.version = c'.version → c.rows = c'.rows := by
    intro h
    rw [hversion, hversion'] at h
    exact catalogText_inj (fun d hd => hds d (hperm.mem_iff.mp hd))
      (fun d hd => hds' d (hperm'.mem_iff.mp hd)) (hdigest h)
  exact ⟨⟨hrows, version_of_rows hc hc'⟩, fun _ ⟨_, h⟩ => hrows (refresh_version h)⟩

end

/-- The free texts of a descriptor over an alphabet. -/
structure Over (alphabet : Char → Prop) (d : PluginDescriptor) : Prop where
  pluginId : ∀ ch ∈ d.pluginId.toList, alphabet ch
  version : ∀ ch ∈ d.version.toList, alphabet ch
  contractVersion : ∀ ch ∈ d.contractVersion.toList, alphabet ch
  profiles : ∀ p ∈ d.supportedProfiles, ∀ ch ∈ p.toList, alphabet ch

/-- All catalogs over the alphabet are told apart. -/
def Unambiguous (alphabet : Char → Prop) : Prop :=
  ∀ ds ds' c c', (∀ d ∈ ds, Built d ∧ Over alphabet d) → (∀ d ∈ ds', Built d ∧ Over alphabet d) →
    buildCatalog ds = .ok c → buildCatalog ds' = .ok c' →
    NoCollision (catalogText c.descriptors) (catalogText c'.descriptors) → TellsApart c c'

theorem Built.profile_ne_empty [LawfulLower] {d : PluginDescriptor} (h : Built d) {p : String}
    (hp : p ∈ d.supportedProfiles) : p ≠ "" := by
  obtain ⟨s, hs, rfl⟩ := h.profile hp
  rw [ne_eq, LawfulLower.lower_eq_empty]
  simpa [blank] using hs

theorem Over.separated [LawfulLower] {alphabet : Char → Prop} {d : PluginDescriptor}
    (hbuilt : Built d) (h : Over alphabet d) (hcomma : ¬ alphabet ',') (hbar : ¬ alphabet '|') :
    Separated d where
  pluginId hmem := hbar (h.pluginId _ hmem)
  version hmem := hbar (h.version _ hmem)
  contractVersion hmem := hbar (h.contractVersion _ hmem)
  profiles p hp := ⟨hbuilt.profile_ne_empty hp, fun hmem => hbar (h.profiles p hp _ hmem),
    fun hmem => hcomma (h.profiles p hp _ hmem)⟩

-- ---------------------------------------------------------------------------
-- Alphabets with a separator
-- ---------------------------------------------------------------------------

def singleCatalog (d : PluginDescriptor) : PluginCatalogSnapshot :=
  snapshotOf [d] [(d.pluginId, d)] (List.pairwise_singleton ..)

theorem built_descriptorOf (metadata : PluginMetadata) (capabilities : PluginCapabilities)
    {moduleName : String} (hname : blank moduleName = false) (exports : Exports) :
    Built (Discovery.descriptorOf metadata capabilities moduleName exports) := by
  refine ⟨metadata, capabilities, moduleName, exports, ?_⟩
  simp [Discovery.pluginDescriptor, metadata.named, metadata.versioned, metadata.contracted, hname]

/-- Profiles in lower case stay as the metadata has them. -/
theorem descriptorOf_profiles {metadata : PluginMetadata}
    (hlower : ∀ p ∈ metadata.supportedProfiles, Interpreter.lower p = p)
    (capabilities : PluginCapabilities) (moduleName : String) (exports : Exports) :
    (Discovery.descriptorOf metadata capabilities moduleName exports).supportedProfiles =
      metadata.supportedProfiles := by
  have hkept : metadata.supportedProfiles.filter (!blank ·) = metadata.supportedProfiles :=
    List.filter_eq_self.mpr fun p hp => by simp [(metadata.profiled p hp).1]
  calc (metadata.supportedProfiles.filter (!blank ·)).map (fun p => Interpreter.lower (strip p))
      = metadata.supportedProfiles.map (fun p => Interpreter.lower (strip p)) := by rw [hkept]
    _ = metadata.supportedProfiles.map id := List.map_congr_left fun p hp => by
        rw [(metadata.profiled p hp).2, hlower p hp]
        rfl
    _ = metadata.supportedProfiles := List.map_id _

/-- Two descriptors with one text are not told apart. -/
theorem not_unambiguous {alphabet : Char → Prop} {d d' : PluginDescriptor}
    (hd : Built d ∧ Over alphabet d) (hd' : Built d' ∧ Over alphabet d')
    (htext : versionText d = versionText d') (hrow : rowOf d ≠ rowOf d') :
    ¬ Unambiguous alphabet := by
  intro h
  have htexts : catalogText [d] = catalogText [d'] := by simp [catalogText, htext]
  have hapart : TellsApart (singleCatalog d) (singleCatalog d') :=
    h [d] [d'] _ _ (fun e he => List.mem_singleton.mp he ▸ hd)
      (fun e he => List.mem_singleton.mp he ▸ hd') rfl rfl fun _ => htexts
  have hversions : (singleCatalog d).version = (singleCatalog d').version :=
    congrArg Interpreter.textDigest htexts
  exact hrow (List.singleton_inj.mp (hapart.1.mp hversions))

/-- `str.lower` leaves the two separators alone. -/
def KeepsSeparators : Prop :=
  ∀ s, (∀ ch ∈ s.toList, ch = ',' ∨ ch = '|') → Interpreter.lower s = s

omit [Interpreter] in
theorem over_of_all {alphabet : Char → Prop} {sep : Char} (hsep : alphabet sep) {s : String}
    (h : s.toList.all (· == sep) = true) : ∀ ch ∈ s.toList, alphabet ch := by
  intro ch hch
  obtain rfl : ch = sep := by simpa using List.all_eq_true.mp h ch hch
  exact hsep

/-- A plugin of commas. -/
def commaMetadata (profiles : List String)
    (profiled : ∀ p ∈ profiles, blank p = false ∧ strip p = p) : PluginMetadata where
  pluginId := ","
  family := .device
  version := ","
  contractVersion := ","
  supportedProfiles := profiles
  named := by decide +kernel
  versioned := by decide +kernel
  contracted := by decide +kernel
  profiled

omit [Interpreter] in
theorem unprofiled : ∀ p ∈ ([] : List String), blank p = false ∧ strip p = p :=
  fun _ hp => absurd hp List.not_mem_nil

/-- A plugin of bars. -/
def barMetadata (version contractVersion : String) (versioned : blank version = false)
    (contracted : blank contractVersion = false) : PluginMetadata where
  pluginId := "|"
  family := .device
  version
  contractVersion
  supportedProfiles := []
  named := by decide +kernel
  versioned
  contracted
  profiled := unprofiled

def plugin (metadata : PluginMetadata) : PluginDescriptor :=
  Discovery.descriptorOf metadata ⟨true, false, false, false⟩ "plugin" fun _ => none

theorem plugin_built (metadata : PluginMetadata) : Built (plugin metadata) :=
  built_descriptorOf metadata _ (by decide +kernel) _

/-- Two commas in a row are three commas once joined. -/
theorem comma_ambiguous (hlower : KeepsSeparators) {alphabet : Char → Prop}
    (hcomma : alphabet ',') :
    ¬ Unambiguous alphabet := by
  have hone : ∀ ch ∈ ",".toList, alphabet ch := over_of_all hcomma (by decide)
  have hprofiles : ∀ (profiles : List String)
      (profiled : ∀ p ∈ profiles, blank p = false ∧ strip p = p),
      (∀ p ∈ profiles, p.toList.all (· == ',') = true) →
      (plugin (commaMetadata profiles profiled)).supportedProfiles = profiles :=
    fun profiles profiled hall => descriptorOf_profiles (fun p hp => hlower p fun ch hch =>
      .inl (by simpa using List.all_eq_true.mp (hall p hp) ch hch)) _ _ _
  have hover : ∀ (profiles : List String)
      (profiled : ∀ p ∈ profiles, blank p = false ∧ strip p = p),
      (∀ p ∈ profiles, p.toList.all (· == ',') = true) →
      Over alphabet (plugin (commaMetadata profiles profiled)) := fun profiles profiled hall => {
    pluginId := hone
    version := hone
    contractVersion := hone
    profiles := fun p hp => over_of_all hcomma (hall p (hprofiles profiles profiled hall ▸ hp)) }
  have hthree : ∀ p ∈ [",,,"], blank p = false ∧ strip p = p := by decide +kernel
  have htwo : ∀ p ∈ [",", ","], blank p = false ∧ strip p = p := by decide +kernel
  have hall : ∀ p ∈ [",,,"], p.toList.all (· == ',') = true := by decide
  have hall' : ∀ p ∈ [",", ","], p.toList.all (· == ',') = true := by decide
  refine not_unambiguous ⟨plugin_built (commaMetadata [",,,"] hthree), hover _ _ hall⟩
    ⟨plugin_built (commaMetadata [",", ","] htwo), hover _ _ hall'⟩ ?_ fun hrow => ?_
  · unfold versionText
    rw [hprofiles _ _ hall, hprofiles _ _ hall']
    rfl
  · have hsame := congrArg Row.supportedProfiles hrow
    simp only [rowOf] at hsame
    rw [hprofiles _ _ hall, hprofiles _ _ hall'] at hsame
    exact absurd hsame (by decide)

/-- A bar more in the version is a bar less in the contract. -/
theorem bar_ambiguous {alphabet : Char → Prop} (hbar : alphabet '|') : ¬ Unambiguous alphabet := by
  have hone : ∀ ch ∈ "|".toList, alphabet ch := over_of_all hbar (by decide)
  have htwo : ∀ ch ∈ "||".toList, alphabet ch := over_of_all hbar (by decide)
  refine not_unambiguous
    ⟨plugin_built (barMetadata "|" "||" (by decide +kernel) (by decide +kernel)), ?_⟩
    ⟨plugin_built (barMetadata "||" "|" (by decide +kernel) (by decide +kernel)), ?_⟩ ?_
      fun hrow => ?_
  · exact ⟨hone, hone, htwo, nofun⟩
  · exact ⟨hone, htwo, hone, nofun⟩
  · rfl
  · have hversion : "|" = "||" := congrArg Row.version hrow
    exact absurd hversion (by decide)

/-- Catalogs whose texts have no separator are told apart by their versions, and an alphabet has
only such catalogs where it has neither separator. -/
theorem versions_distinguish_iff [LawfulLower] (hlower : KeepsSeparators) :
    (∀ ds ds' c c', (∀ d ∈ ds, Separated d) → (∀ d ∈ ds', Separated d) →
      buildCatalog ds = .ok c → buildCatalog ds' = .ok c' →
      NoCollision (catalogText c.descriptors) (catalogText c'.descriptors) → TellsApart c c') ∧
    ∀ alphabet, Unambiguous alphabet ↔ ¬ alphabet ',' ∧ ¬ alphabet '|' := by
  refine ⟨fun ds ds' c c' hds hds' hc hc' => tellsApart_of_separated hc hc' hds hds',
    fun alphabet => ⟨fun h => ?_, ?_⟩⟩
  · exact ⟨fun hcomma => comma_ambiguous hlower hcomma h, fun hbar => bar_ambiguous hbar h⟩
  · rintro ⟨hcomma, hbar⟩ ds ds' c c' hds hds' hc hc' hdigest
    exact tellsApart_of_separated hc hc'
      (fun d hd => (hds d hd).2.separated (hds d hd).1 hcomma hbar)
      (fun d hd => (hds' d hd).2.separated (hds' d hd).1 hcomma hbar) hdigest

end

section
attribute [local instance] Interpreter.ascii

theorem keepsSeparators_ascii : KeepsSeparators := by
  intro s hs
  have hsame : s.toList.map Char.toLower = s.toList := by
    refine (List.map_congr_left fun ch hch => ?_).trans (List.map_id _)
    rcases hs ch hch with rfl | rfl <;> decide
  exact (congrArg String.ofList hsame).trans (String.ofList_toList)

theorem versions_distinguish_ascii :
    (∀ ds ds' c c', (∀ d ∈ ds, Separated d) → (∀ d ∈ ds', Separated d) →
      buildCatalog ds = .ok c → buildCatalog ds' = .ok c' →
      NoCollision (catalogText c.descriptors) (catalogText c'.descriptors) → TellsApart c c') ∧
    ∀ alphabet, Unambiguous alphabet ↔ ¬ alphabet ',' ∧ ¬ alphabet '|' :=
  have : LawfulLower := lawful_ascii
  versions_distinguish_iff keepsSeparators_ascii

def labProfiles (profiles : List String)
    (profiled : ∀ p ∈ profiles, blank p = false ∧ strip p = p) : PluginMetadata where
  pluginId := "psa_horiba"
  family := .device
  version := "1.0.0"
  contractVersion := "2.0"
  supportedProfiles := profiles
  named := by decide +kernel
  versioned := by decide +kernel
  contracted := by decide +kernel
  profiled

def oneProfile : PluginDescriptor := plugin (labProfiles ["lab,pilot"] (by decide +kernel))

def twoProfiles : PluginDescriptor := plugin (labProfiles ["lab", "pilot"] (by decide +kernel))

/-- One profile with a comma in its name, and the two it looks like. -/
theorem profiles_confused : Built oneProfile ∧ Built twoProfiles ∧
    buildCatalog [oneProfile] = .ok (singleCatalog oneProfile) ∧
    buildCatalog [twoProfiles] = .ok (singleCatalog twoProfiles) ∧
    NoCollision (catalogText [oneProfile]) (catalogText [twoProfiles]) ∧
    (singleCatalog oneProfile).rows ≠ (singleCatalog twoProfiles).rows ∧
    (singleCatalog oneProfile).version = (singleCatalog twoProfiles).version ∧
    ∃ refreshed, refreshCatalog (singleCatalog oneProfile) [oneProfile]
      (some (singleCatalog twoProfiles).version) = .ok refreshed := by
  have htext : versionText oneProfile = versionText twoProfiles := by decide +kernel
  have hcatalog : catalogText [oneProfile] = catalogText [twoProfiles] := by
    simp [catalogText, htext]
  have hversion : (singleCatalog oneProfile).version = (singleCatalog twoProfiles).version :=
    congrArg Interpreter.textDigest hcatalog
  refine ⟨plugin_built _, plugin_built _, rfl, rfl, fun _ => hcatalog, by decide +kernel,
    hversion, ?_⟩
  rw [refreshCatalog, if_neg (by simp [hversion])]
  exact ⟨_, rfl⟩

end

end DpostV2.PluginCatalog
