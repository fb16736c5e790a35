-- The contract of settings: of every mapping, settings are read that satisfy every check, or a
-- fault is found that is true of a place in the mapping and names it. The timeout is the exception:
-- a whole number past the largest floating-point number is refused without a name, and a timeout
-- that is no number is taken.
import CorpusSearch.Proofs.Query.Synonyms
import CorpusSearch.Proofs.Settings.Accessors
import CorpusSearch.Report.Writer

namespace CorpusSearch.Settings

variable {raw : Entries}

/-! ## The section of the log -/

/-- A level that is there, and the folder of the log. -/
structure Logging.IsFrom (raw : Entries) (logging : Logging) : Prop where
  level : ∃ written, Stands raw (.of "log" "level") (.text written) ∧
    logging.level = levelName written
  folder : Comes raw (.of "log" "dir") .text "log" logging.folder

theorem Logging.gives_read : Gives raw (IsFrom raw) (read raw) := by
  refine (gives_sectionOf true "log" (by decide)).bind fun entries hentries => ?_
  have hsection : Stands raw (.top "log") (.mapping entries) := hentries.resolve_right nofun
  refine (gives_required (by simp) hsection).bind fun value hvalue => ?_
  refine (isAccessor_asText.gives hvalue).bind fun level hlevel => ?_
  refine (isAccessor_asTruth.gives_optional (by simp) (.inl hsection) false).bind fun toFile _ => ?_
  exact (isAccessor_asText.gives_optional (by simp) (.inl hsection) _).bind fun folder hfolder =>
    ⟨⟨level, hlevel ▸ hvalue, rfl⟩, hfolder⟩

/-- What the check of the section asks for. -/
structure Logging.IsSound (logging : Logging) : Prop where
  level : logging.level ∈ levels
  folder : logging.folder.strip ≠ []

theorem Logging.gives_check {logging : Logging} (h : logging.IsFrom raw) :
    Gives raw (fun _ => logging.IsSound) logging.check := by
  obtain ⟨written, hwritten, hlevel⟩ := h.level
  refine gives_refusal rfl (fun hunknown => ?_) fun hknown => ?_
  · refine ⟨_, .unknownLevel hwritten ?_⟩
    rw [← hlevel]
    simpa using hunknown
  · exact (gives_checkNotBlank (by simp) (by decide) h.folder id).imp
      fun _ hfolder => ⟨by simpa using hknown, hfolder⟩

/-! ## The section of the catalogs -/

/-- Every address is written at its place, or it is the one that is built in. -/
def Catalogs.IsFrom (raw : Entries) (catalogs : Catalogs) : Prop :=
  ∀ kind : Corpus.Kind, ∃ written,
    Comes raw (.of "catalogs" kind.settingsKey) .text (defaultUrl kind) written ∧
      catalogs.url kind = written.strip

theorem Catalogs.dotted_settingsKey (kind : Corpus.Kind) :
    (Place.of "catalogs" kind.settingsKey).dotted = urlKey kind := by
  cases kind <;> rfl

theorem Catalogs.gives_readUrl {entries : Entries} (h : AreOf raw "catalogs" entries)
    (kind : Corpus.Kind) :
    Gives raw (fun url => ∃ written,
      Comes raw (.of "catalogs" kind.settingsKey) .text (defaultUrl kind) written ∧
        url = written.strip) (readUrl entries kind) :=
  (isAccessor_asText.gives_optional (dotted_settingsKey kind) h (defaultUrl kind)).map
    fun written hwritten => ⟨written, hwritten, rfl⟩

theorem Catalogs.gives_read : Gives raw (IsFrom raw) (read raw) := by
  refine (gives_sectionOf false "catalogs" (by decide)).bind fun entries hentries => ?_
  have hsection : AreOf raw "catalogs" entries := hentries.imp_right And.right
  refine (gives_readUrl hsection .textbook).bind fun textbooks htextbooks => ?_
  refine (gives_readUrl hsection .law).bind fun laws hlaws => ?_
  refine (gives_readUrl hsection .rule).bind fun rules hrules => ?_
  refine (isAccessor_asText.gives_optional (by simp) hsection _).bind fun base _ => ?_
  intro kind
  cases kind with
  | textbook => exact htextbooks
  | law => exact hlaws
  | rule => exact hrules

/-- What the check of the section asks for. -/
structure Catalogs.IsSound (catalogs : Catalogs) : Prop where
  nonempty : catalogs.urls ≠ []
  web : ∀ entry ∈ catalogs.urls, Catalog.isWebAddress entry.2

theorem Catalogs.mem_urls {catalogs : Catalogs} {entry : Corpus.Kind × Text} :
    entry ∈ catalogs.urls ↔ entry.2 = catalogs.url entry.1 ∧ entry.2 ≠ [] := by
  obtain ⟨kind, url⟩ := entry
  simp only [urls, List.mem_filter, List.mem_map, Prod.mk.injEq, Bool.not_eq_true',
    List.isEmpty_eq_false_iff]
  constructor
  · rintro ⟨⟨_, _, rfl, rfl⟩, hsome⟩
    exact ⟨rfl, hsome⟩
  · rintro ⟨rfl, hsome⟩
    exact ⟨⟨kind, by cases kind <;> decide, rfl, rfl⟩, hsome⟩

theorem Catalogs.defaultUrl_web (kind : Corpus.Kind) :
    (defaultUrl kind).strip ≠ [] ∧ Catalog.isWebAddress (defaultUrl kind).strip := by
  cases kind <;> decide +kernel

theorem Catalogs.gives_check {catalogs : Catalogs} (h : catalogs.IsFrom raw) :
    Gives raw (fun _ => catalogs.IsSound) catalogs.check := by
  refine gives_refusal rfl (fun hnone => ⟨_, .noCatalog fun kind => ?_⟩) fun hsome => ?_
  · obtain ⟨written, hwritten, hurl⟩ := h kind
    have hempty : written.strip = [] := by
      by_contra hsome
      have hmem : (kind, written.strip) ∈ catalogs.urls := mem_urls.mpr ⟨hurl.symm, hsome⟩
      rw [List.isEmpty_iff.mp hnone] at hmem
      cases hmem
    rcases hwritten with hstands | rfl
    · exact ⟨written, hstands, hempty⟩
    · exact absurd hempty (defaultUrl_web kind).1
  · split
    · rename_i kind url hfind
      have hmem := mem_urls.mp (List.mem_of_find?_eq_some hfind)
      have hweb := List.find?_some hfind
      obtain ⟨written, hwritten, hurl⟩ := h kind
      rw [hurl] at hmem
      obtain ⟨rfl, hne⟩ := hmem
      rw [Bool.not_eq_true'] at hweb
      rcases hwritten with hstands | rfl
      · rw [← dotted_settingsKey]
        exact ⟨_, .notWeb hstands hne hweb⟩
      · rw [(defaultUrl_web kind).2] at hweb
        cases hweb
    · rename_i hfind
      refine ⟨fun hnone => hsome (List.isEmpty_iff.mpr hnone), fun entry hentry => ?_⟩
      simpa using List.find?_eq_none.mp hfind entry hentry

/-! ## The sections of the search -/

/-- A timeout that stands at its place as a number or as a whole number, or that is built in. -/
def IsTimeout (raw : Entries) (timeout : Double) : Prop :=
  Stands raw (.of "search" "fetch_timeout") (.float timeout) ∨
    (∃ whole, Stands raw (.of "search" "fetch_timeout") (.int whole) ∧
      Double.ofInt? whole = some timeout) ∨ timeout = Net.defaultTimeout

theorem gives_asNumber_timeout {entries : Entries} (h : AreOf raw "search" entries) :
    Gives raw (IsTimeout raw) (asNumber "search.fetch_timeout"
      (optional entries "fetch_timeout" (.float Net.defaultTimeout))) := by
  rcases stands_optional h "fetch_timeout" (.float Net.defaultTimeout) with hstands | hother
  · generalize optional entries "fetch_timeout" (.float Net.defaultTimeout) = value at hstands
    cases value with
    | float number => exact .inl hstands
    | int whole =>
      unfold asNumber
      dsimp only
      split
      · rename_i number hnumber
        exact .inr (.inl ⟨whole, hstands, hnumber⟩)
      · rename_i hnone
        exact ⟨_, .tooLarge hstands ((Double.ofInt?_eq_none_iff whole).mp hnone)⟩
    | _ => exact ⟨_, .notNumber hstands nofun nofun⟩
  · rw [hother]
    exact .inr (.inr rfl)

/-- A table of synonyms that stands in its section, or the one that is built in. -/
def IsTable (raw : Entries) (table : Query.Synonyms) : Prop :=
  ∃ lists, table = .build lists ∧
    (ListsOf raw (.top "synonyms") lists ∨ lists = Query.Synonyms.default)

theorem Search.gives_readSynonyms : Gives raw (IsTable raw) (readSynonyms raw) := by
  unfold readSynonyms
  split
  · exact ⟨_, rfl, .inr rfl⟩
  · exact ⟨_, rfl, .inr rfl⟩
  · rename_i value _ hfield
    exact (gives_asTextListMapping (.top (mem_of_field? hfield))).map
      fun lists hlists => ⟨lists, rfl, .inl hlists⟩

/-- Every number of the sections stands at its place, or it is the one that is built in. -/
structure Search.IsFrom (raw : Entries) (search : Search) : Prop where
  maxDocuments : Comes raw (.of "search" "max_documents") .int Match.defaultMaxDocuments
    search.maxDocuments
  maxWorkers : Comes raw (.of "search" "max_workers") .int Match.defaultMaxWorkers
    search.maxWorkers
  fetchTimeout : IsTimeout raw search.fetchTimeout
  fetchAttempts : Comes raw (.of "search" "fetch_attempts") .int Net.defaultAttempts
    search.fetchAttempts
  snippetWindow : Comes raw (.of "snippets" "window") .int Snippet.defaultWindow
    search.snippetWindow
  maxSnippets : Comes raw (.of "snippets" "max_snippets") .int Snippet.defaultMaxSnippets
    search.maxSnippets
  synonyms : IsTable raw search.synonyms

theorem Search.gives_read : Gives raw (IsFrom raw) (read raw) := by
  refine (gives_sectionOf false "search" (by decide)).bind fun entries hentries => ?_
  have hsearch : AreOf raw "search" entries := hentries.imp_right And.right
  refine (gives_sectionOf false "snippets" (by decide)).bind fun snippets hentries => ?_
  have hsnippets : AreOf raw "snippets" snippets := hentries.imp_right And.right
  refine gives_readSynonyms.bind fun table htable => ?_
  refine (isAccessor_asWhole.gives_optional (by simp) hsearch _).bind fun documents hdocuments => ?_
  refine (isAccessor_asWhole.gives_optional (by simp) hsearch _).bind fun workers hworkers => ?_
  refine (gives_asNumber_timeout hsearch).bind fun timeout htimeout => ?_
  refine (isAccessor_asWhole.gives_optional (by simp) hsearch _).bind fun attempts hattempts => ?_
  refine (isAccessor_asTruth.gives_optional (by simp) hsearch _).bind fun relaxed _ => ?_
  refine (isAccessor_asWhole.gives_optional (by simp) hsnippets _).bind fun window hwindow => ?_
  refine (isAccessor_asWhole.gives_optional (by simp) hsnippets _).bind fun most hmost => ?_
  exact ⟨hdocuments, hworkers, htimeout, hattempts, hwindow, hmost, htable⟩

/-- What the check of the sections asks for. -/
structure Search.IsSound (search : Search) : Prop where
  maxDocuments : 0 < search.maxDocuments
  maxWorkers : 0 < search.maxWorkers
  fetchTimeout : search.fetchTimeout.isAtMostZero = false
  fetchAttempts : 0 < search.fetchAttempts
  snippetWindow : 0 < search.snippetWindow
  maxSnippets : 0 ≤ search.maxSnippets
  synonyms : ∀ entry ∈ search.synonyms, entry.1 ≠ [] ∧ entry.2 ≠ []

theorem gives_checkPositiveNumber_timeout {timeout : Double} (h : IsTimeout raw timeout) :
    Gives raw (fun _ => timeout.isAtMostZero = false)
      (checkPositiveNumber "search.fetch_timeout" timeout) := by
  refine gives_refusal rfl (fun hzero => ?_) Bool.eq_false_iff.mpr
  rcases h with hnumber | ⟨whole, hwhole, hrounded⟩ | rfl
  · exact ⟨_, .notPositiveNumber hnumber hzero⟩
  · refine ⟨_, .notPositive hwhole (Int.not_lt.mp fun hpos => ?_)⟩
    rw [Double.isAtMostZero_of_ofInt? hrounded hpos] at hzero
    cases hzero
  · exact absurd hzero (by decide)

theorem default_synonyms : ∀ list ∈ Query.Synonyms.default,
    list.1.strip.normalize ≠ [] ∧ list.2 ≠ [] := by
  decide +kernel

theorem IsTable.blames {table : Query.Synonyms} (h : IsTable raw table)
    {entry : Text × List Text} (hentry : entry ∈ table) :
    (entry.1 = [] → Blames raw (.top "synonyms") .emptyTerm) ∧
      (entry.2 = [] → Blames raw (.top "synonyms") (.noSynonyms entry.1)) := by
  obtain ⟨lists, rfl, hlists⟩ := h
  obtain ⟨⟨term, phrases⟩, hlist, rfl⟩ := List.mem_map.mp (Query.Synonyms.mem_ofList hentry)
  rcases hlists with hlists | rfl
  · obtain ⟨value, hvalue, htexts⟩ := hlists _ hlist
    refine ⟨.emptyTerm hvalue, fun hempty => ?_⟩
    have hphrases : phrases = [] := List.map_eq_nil_iff.mp hempty
    rw [hphrases] at htexts
    rcases htexts with rfl | ⟨text, -, htext⟩
    · exact .noSynonyms hvalue
    · cases htext
  · obtain ⟨hterm, hphrases⟩ := default_synonyms _ hlist
    exact ⟨fun hempty => absurd hempty hterm,
      fun hempty => absurd (List.map_eq_nil_iff.mp hempty) hphrases⟩

theorem Search.gives_checkSynonyms {table : Query.Synonyms} (h : IsTable raw table)
    {entries : List (Text × List Text)} (hentries : ∀ entry ∈ entries, entry ∈ table) :
    Gives raw (fun _ => ∀ entry ∈ entries, entry.1 ≠ [] ∧ entry.2 ≠ [])
      (checkSynonyms entries) := by
  induction entries with
  | nil => exact fun _ hmem => nomatch hmem
  | cons entry entries ih =>
    obtain ⟨hentry, hrest⟩ := List.forall_mem_cons.mp hentries
    obtain ⟨hterm, hphrases⟩ := h.blames hentry
    refine gives_refusal rfl (fun hempty => ⟨_, hterm (List.isEmpty_iff.mp hempty)⟩) fun hterm => ?_
    refine gives_refusal rfl (fun hempty => ⟨_, hphrases (List.isEmpty_iff.mp hempty)⟩)
      fun hphrases => ?_
    rw [List.isEmpty_iff] at hterm hphrases
    exact (ih hrest).imp fun _ hrest => List.forall_mem_cons.mpr ⟨⟨hterm, hphrases⟩, hrest⟩

theorem Search.gives_check {search : Search} (h : search.IsFrom raw) :
    Gives raw (fun _ => search.IsSound) search.check := by
  refine (gives_checkPositive (by simp) (by decide) h.maxDocuments).bind fun _ hdocuments => ?_
  refine (gives_checkPositive (by simp) (by decide) h.maxWorkers).bind fun _ hworkers => ?_
  refine (gives_checkPositiveNumber_timeout h.fetchTimeout).bind fun _ htimeout => ?_
  refine (gives_checkPositive (by simp) (by decide) h.fetchAttempts).bind fun _ hattempts => ?_
  refine (gives_checkPositive (by simp) (by decide) h.snippetWindow).bind fun _ hwindow => ?_
  refine gives_refusal rfl (fun hnegative => ?_) fun hmost => ?_
  · rcases h.maxSnippets with hstands | hdefault
    · exact ⟨_, .negative hstands hnegative⟩
    · rw [hdefault] at hnegative
      exact absurd hnegative (by decide)
  · exact (gives_checkSynonyms h.synonyms fun _ => id).imp fun _ hsynonyms =>
      ⟨hdocuments, hworkers, htimeout, hattempts, hwindow, Int.not_lt.mp hmost, hsynonyms⟩

/-! ## The section of the output -/

/-- The names of the formats are tidied from those at their place, or they are the one that is built
in. -/
structure Output.IsFrom (raw : Entries) (output : Output) : Prop where
  formats : ∃ names, output.formats = formatNames names ∧
    ((∃ value, Stands raw (.of "output" "formats") value ∧ IsTexts value names) ∨
      names = [Report.Format.console.name])
  folder : Comes raw (.of "output" "base_dir") .text "output" output.folder

theorem gives_asTextOrList_formats {entries : Entries} (h : AreOf raw "output" entries) :
    Gives raw (fun names => (∃ value, Stands raw (.of "output" "formats") value ∧
        IsTexts value names) ∨ names = [Report.Format.console.name])
      (asTextOrList "output.formats"
        (optional entries "formats" (.list [.text Report.Format.console.name]))) := by
  rcases stands_optional h "formats" (.list [.text Report.Format.console.name]) with
    hstands | hother
  · exact (gives_asTextOrList hstands).imp fun names hnames => .inl ⟨_, hstands, hnames⟩
  · rw [hother]
    exact .inr rfl

theorem Output.gives_read : Gives raw (IsFrom raw) (read raw) := by
  refine (gives_sectionOf false "output" (by decide)).bind fun entries hentries => ?_
  have hsection : AreOf raw "output" entries := hentries.imp_right And.right
  refine (gives_asTextOrList_formats hsection).bind fun names hnames => ?_
  refine (isAccessor_asText.gives_optional (by simp) hsection _).bind fun folder hfolder => ?_
  exact ⟨⟨names, rfl, hnames⟩, hfolder⟩

/-- Tidied names are the names without blank ones, in small letters and each of them once. -/
theorem Output.formatNames_eq (names : List Text) :
    formatNames names = (((names.map Text.strip).filter fun name => !name.isEmpty).map
      Text.lower).eraseDups :=
  Query.foldl_eq_eraseDups _

theorem Output.mem_formatNames {name : Text} {names : List Text} :
    name ∈ formatNames names ↔
      ∃ written ∈ names, written.strip ≠ [] ∧ written.strip.lower = name := by
  simp only [formatNames_eq, List.mem_eraseDups, List.mem_map, List.mem_filter,
    Bool.not_eq_true', List.isEmpty_eq_false_iff]
  constructor
  · rintro ⟨_, ⟨⟨written, hwritten, rfl⟩, hsome⟩, hname⟩
    exact ⟨written, hwritten, hsome, hname⟩
  · rintro ⟨written, hwritten, hsome, hname⟩
    exact ⟨_, ⟨⟨written, hwritten, rfl⟩, hsome⟩, hname⟩

theorem Output.formatNames_default :
    formatNames [Report.Format.console.name] = [Report.Format.console.name] := by
  decide +kernel

/-- What the check of the section asks for. -/
structure Output.IsSound (output : Output) : Prop where
  folder : output.folder.strip ≠ []
  nonempty : output.formats ≠ []
  once : output.formats.Nodup
  known : ∀ name ∈ output.formats, ∃ format, Report.Format.ofName? name = some format

theorem Output.gives_check {output : Output} (h : output.IsFrom raw) :
    Gives raw (fun _ => output.IsSound) output.check := by
  obtain ⟨names, hformats, hnames⟩ := h.formats
  refine (gives_checkNotBlank (by simp) (by decide) h.folder id).bind fun _ hfolder => ?_
  refine gives_refusal rfl (fun hempty => ?_) fun hsome => ?_
  · rw [hformats, List.isEmpty_iff] at hempty
    rcases hnames with ⟨value, hvalue, hnames⟩ | rfl
    · refine ⟨_, .noFormat hvalue hnames fun name hname => by_contra fun hsome => ?_⟩
      have hmem := mem_formatNames.mpr ⟨name, hname, hsome, rfl⟩
      rw [hempty] at hmem
      cases hmem
    · rw [formatNames_default] at hempty
      cases hempty
  · refine gives_refusal rfl (fun hunknown => ?_) fun hknown => ?_
    · rcases hnames with ⟨value, hvalue, hnames⟩ | rfl
      · refine ⟨_, .unknownFormats hvalue hnames (by simpa using hunknown) fun name hname => ?_⟩
        obtain ⟨hname, hnone⟩ := List.mem_filter.mp hname
        rw [hformats] at hname
        obtain ⟨written, hwritten, -, hlower⟩ := mem_formatNames.mp hname
        exact ⟨Option.isNone_iff_eq_none.mp hnone, written, hwritten, hlower⟩
      · rw [hformats, formatNames_default] at hunknown
        cases hunknown
    · refine ⟨hfolder, mt List.isEmpty_iff.mpr hsome, ?_, fun name hname => ?_⟩
      · rw [hformats, formatNames_eq]
        exact Query.nodup_eraseDups _
      · have hall : ∀ name ∈ output.formats, Report.Format.ofName? name ≠ none := by
          simpa using hknown
        exact Option.ne_none_iff_exists'.mp (hall name hname)

/-! ## The section of the storage -/

/-- The path of the database is stripped from the one at its place, or from the one that is built
in. -/
def Storage.IsFrom (raw : Entries) (storage : Storage) : Prop :=
  ∃ written, Comes raw (.of "storage" "db_path") .text defaultDatabase written ∧
    storage.database = written.strip

theorem Storage.gives_read : Gives raw (IsFrom raw) (read raw) := by
  refine (gives_sectionOf false "storage" (by decide)).bind fun entries hentries => ?_
  have hsection : AreOf raw "storage" entries := hentries.imp_right And.right
  exact (isAccessor_asText.gives_optional (by simp) hsection _).bind fun database hdatabase =>
    ⟨database, hdatabase, rfl⟩

/-- What the check of the section asks for. -/
structure Storage.IsSound (storage : Storage) : Prop where
  nonempty : storage.database.strip ≠ []
  file : storage.database.getLast? ≠ some '/' ∧ storage.database.getLast? ≠ some '\\'

theorem Storage.gives_check {storage : Storage} (h : storage.IsFrom raw) :
    Gives raw (fun _ => storage.IsSound) storage.check := by
  obtain ⟨written, hwritten, hdatabase⟩ := h
  refine (gives_checkNotBlank (by simp) (by decide) hwritten fun hblank =>
    Text.forall_isBlank_strip.mp (hdatabase ▸ hblank)).bind fun _ hsome => ?_
  refine gives_refusal rfl (fun hfolder => ?_) fun hfile => ?_
  · rcases hwritten with hstands | rfl
    · refine ⟨_, .namesFolder hstands ?_⟩
      rw [← hdatabase]
      simpa using hfolder
    · rw [hdatabase] at hfolder
      exact absurd hfolder (by decide)
  · exact ⟨hsome, not_or.mp (by simpa using hfile)⟩

/-! ## All sections -/

/-- What the checks of all sections ask for. -/
structure IsSound (settings : Settings) : Prop where
  logging : settings.logging.IsSound
  catalogs : settings.catalogs.IsSound
  search : settings.search.IsSound
  output : settings.output.IsSound
  storage : settings.storage.IsSound

theorem gives_ofEntries (raw : Entries) :
    Gives raw (fun settings : Settings =>
      settings.IsSound ∧ IsTimeout raw settings.search.fetchTimeout) (ofEntries raw) := by
  refine Logging.gives_read.bind fun logging hlogging => ?_
  refine Catalogs.gives_read.bind fun catalogs hcatalogs => ?_
  refine Search.gives_read.bind fun search hsearch => ?_
  refine Output.gives_read.bind fun output houtput => ?_
  refine Storage.gives_read.bind fun storage hstorage => ?_
  refine (Logging.gives_check hlogging).bind fun _ hlogging => ?_
  refine (Catalogs.gives_check hcatalogs).bind fun _ hcatalogs => ?_
  refine (Search.gives_check hsearch).bind fun _ hsearch' => ?_
  refine (Output.gives_check houtput).bind fun _ houtput => ?_
  refine (Storage.gives_check hstorage).bind fun _ hstorage => ?_
  exact ⟨⟨hlogging, hcatalogs, hsearch', houtput, hstorage⟩, hsearch.fetchTimeout⟩

theorem exists_writers (folder : Files.Path) {names : List Text}
    (h : ∀ name ∈ names, ∃ format, Report.Format.ofName? name = some format) :
    ∃ writers, Report.Writer.ofNames folder names = .ok writers ∧
      writers.length = names.length := by
  induction names with
  | nil => exact ⟨[], rfl, rfl⟩
  | cons name names ih =>
    obtain ⟨⟨format, hformat⟩, hnames⟩ := List.forall_mem_cons.mp h
    obtain ⟨writers, hwriters, hlength⟩ := ih hnames
    refine ⟨.ofFormat folder format :: writers, ?_, congrArg (· + 1) hlength⟩
    unfold Report.Writer.ofNames
    rw [hformat, hwriters]
    rfl

/-- A timeout that was read and is not zero or less is positive, unless it stands there as no
number. -/
theorem IsTimeout.positive {timeout : Double} (h : IsTimeout raw timeout)
    (hcheck : timeout.isAtMostZero = false) :
    (Double.zero false).lt timeout ∨
      timeout = .nan ∧ Stands raw (.of "search" "fetch_timeout") (.float .nan) := by
  rw [Double.zero_lt_iff]
  by_cases hnan : timeout = .nan
  · subst hnan
    refine .inr ⟨rfl, ?_⟩
    rcases h with hstands | ⟨whole, -, hrounded⟩ | hdefault
    · exact hstands
    · obtain ⟨_, _, hfinite, -⟩ := Double.exists_finite_of_ofInt? hrounded
      cases hfinite
    · exact absurd hdefault (by decide)
  · exact .inl ⟨hcheck, hnan⟩

/-- **The contract of settings.** Of every mapping, either settings are read in which every limit is
in its range, every term has synonyms, the addresses are those of the web and the formats have
writers; or the mapping is refused for a wrong type or a wrong value, with a message that names a
place of which the fault is true. Only the timeout is outside the contract: if it is no number it is
taken, and if it is a whole number past the largest floating-point number, then it is refused by a
fault of another kind. -/
theorem ofEntries_contract (raw : Entries) :
    match ofEntries raw with
    | .ok settings =>
      0 < settings.search.maxDocuments ∧ 0 < settings.search.maxWorkers ∧
      ((Double.zero false).lt settings.search.fetchTimeout ∨
        settings.search.fetchTimeout = .nan ∧
          Stands raw (.of "search" "fetch_timeout") (.float .nan)) ∧
      0 < settings.search.fetchAttempts ∧ 0 < settings.search.snippetWindow ∧
      0 ≤ settings.search.maxSnippets ∧
      (∀ entry ∈ settings.search.synonyms, entry.1 ≠ [] ∧ entry.2 ≠ []) ∧
      settings.catalogs.urls ≠ [] ∧
      (∀ entry ∈ settings.catalogs.urls, Catalog.isWebAddress entry.2) ∧
      settings.output.formats ≠ [] ∧ settings.output.formats.Nodup ∧
      ∀ folder, ∃ writers, Report.Writer.ofNames folder settings.output.formats = .ok writers ∧
        writers.length = settings.output.formats.length
    | .error fault =>
      ∃ place, Blames raw place fault ∧
        (place.dotted <:+: fault.message ∧ (fault.kind = .type ∨ fault.kind = .value) ∨
          fault = .tooLarge ∧ ∃ whole, Double.past ≤ whole.natAbs ∧
            Stands raw (.of "search" "fetch_timeout") (.int whole)) := by
  have hgives := gives_ofEntries raw
  cases hread : ofEntries raw with
  | ok settings =>
    rw [hread] at hgives
    obtain ⟨hsound, htimeout⟩ := hgives
    have hsearch := hsound.search
    exact ⟨hsearch.maxDocuments, hsearch.maxWorkers, htimeout.positive hsearch.fetchTimeout,
      hsearch.fetchAttempts, hsearch.snippetWindow, hsearch.maxSnippets, hsearch.synonyms,
      hsound.catalogs.nonempty, hsound.catalogs.web, hsound.output.nonempty, hsound.output.once,
      fun folder => exists_writers folder hsound.output.known⟩
  | error fault =>
    rw [hread] at hgives
    obtain ⟨place, hblames⟩ := hgives
    refine ⟨place, hblames, ?_⟩
    by_cases hlarge : fault = .tooLarge
    · subst hlarge
      cases hblames with
      | tooLarge hstands hpast => exact .inr ⟨rfl, _, hpast, hstands⟩
    · exact .inl (hblames.named hlarge)

def withTimeout (timeout : Value) : Entries :=
  [(.text "log", .mapping [(.text "level", .text "INFO")]),
    (.text "search", .mapping [(.text "fetch_timeout", timeout)])]

/-- A timeout of `10 ^ 309` is refused as an overflow, without its key or its section, and a timeout
that is no number is taken. -/
theorem ofEntries_timeout_outside :
    (ofEntries (withTimeout (.int (Number.tenTo 309))) = .error .tooLarge ∧
      Fault.tooLarge.kind = .overflow ∧ ¬ "search".toList <:+: Fault.tooLarge.message) ∧
    (ofEntries (withTimeout (.float .nan))).map (·.search.fetchTimeout) = .ok .nan ∧
      (Double.zero false).lt .nan = false := by
  refine ⟨⟨?_, rfl, ?_⟩, ?_, rfl⟩
  · decide +kernel
  · rw [← Text.occursIn_iff]
    decide
  · decide +kernel

end CorpusSearch.Settings
