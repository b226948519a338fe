/-
The file of the trust-on-first-use store (`KnownHosts::load`, `insert_and_save`): `known_hosts.toml` next to the
configuration. Loading is all or nothing, a missing or malformed file yields an empty store; saving rewrites the file in
place, and a write that fails leaves it as it was or with some beginning of the new content.

The TOML library is a parameter (`Toml`): it reads a file's content as a table of strings and other values, and reads
back the string maps it writes. The letters of a file are of any type, so bytes too.

Results, for every content and every run of loads and insertions:
- `lookup_load`, `load_of_not_allStrings`: a table of strings is loaded as it is, anything else as an empty store.
- `pins_durable`: from a table of strings, and while no load reads what a failed write left, the store in memory keeps
  every pin, and so does the file whenever the last write succeeded. `damaged_file_forgets`: not otherwise.
-/
import MumbledFlight.Lib.Runs
import MumbledFlight.Plugin.KnownHosts

namespace MumbledFlight

/-! ## TOML -/

inductive TomlValue where
  | string (s : String)
  /-- an integer, a date, a nested table, … -/
  | other
deriving DecidableEq

abbrev TomlTable := HashMap String TomlValue

namespace TomlValue

def string? : TomlValue → Option String
  | string s => some s
  | other => none

theorem string?_eq_some {v : TomlValue} {s : String} : v.string? = some s ↔ v = string s := by
  cases v <;> simp [string?]

end TomlValue

/-- a table as a `HashMap<String, String>`: all values are strings -/
def stringTable (t : TomlTable) : Option KnownHosts :=
  if t.entries.all fun e => e.2.string?.isSome then some (HashMap.mapTo (fun v => v.string?.getD "") t) else none

/-- the library, on files with letters B -/
structure Toml (B : Type) where
  /-- `read_to_string` and the parser: the table, if the content is one -/
  read : List B → Option TomlTable
  /-- `to_string` of a string map, which always succeeds -/
  write : KnownHosts → List B
  /-- a string map is read back as it was written -/
  read_write : ∀ hosts, ∃ t, read (write hosts) = some t ∧ ∀ key, t.lookup key = (hosts.lookup key).map .string

/-! ## The store and its file -/

/-- what becomes of a write -/
inductive WriteOutcome where
  | done
  /-- it fails, before the file is opened or after so many letters -/
  | failed (left : Option ℕ)

def writeFile {B : Type} (content : List B) (file : Option (List B)) : WriteOutcome → Option (List B)
  | .done => some content
  | .failed none => file
  | .failed (some n) => some (content.take n)

structure StoredHosts (B : Type) where
  file : Option (List B)
  /-- the store in memory -/
  hosts : KnownHosts
  /-- every insertion so far -/
  inserted : List (String × String)
  /-- the last write failed -/
  torn : Bool

inductive HostsEvent where
  | load
  | insertAndSave (key pem : String) (outcome : WriteOutcome)

section

variable {B : Type} (toml : Toml B)

namespace KnownHosts

def load (file : Option (List B)) : KnownHosts := ((file.bind toml.read).bind stringTable).getD ∅

end KnownHosts

namespace StoredHosts

/-- the plugin has loaded the file -/
def init (file : Option (List B)) : StoredHosts B := ⟨file, .load toml file, [], false⟩

def step (s : StoredHosts B) : HostsEvent → StoredHosts B
  | .load => { s with hosts := .load toml s.file }
  | .insertAndSave key pem outcome =>
    let hosts := s.hosts.insertAndSave key pem
    { file := writeFile (toml.write hosts) s.file outcome
      hosts := hosts
      inserted := s.inserted ++ [(key, pem)]
      torn := match outcome with
        | .done => false
        | .failed _ => true }

end StoredHosts

/-- the file is a table in which the key has this string -/
def EntryIn (file : Option (List B)) (key pem : String) : Prop :=
  ∃ content t, file = some content ∧ toml.read content = some t ∧ t.lookup key = some (.string pem)

/-- the file is missing or a table of strings -/
def AllStrings (file : Option (List B)) : Prop :=
  ∀ content, file = some content → ∃ t hosts, toml.read content = some t ∧ stringTable t = some hosts

/-- an entry of the file outlives the step: the next load finds it, or what was inserted for its key -/
def EntriesSurvive (s : StoredHosts B) (e : HostsEvent) : Prop :=
  ∀ key pem, EntryIn toml s.file key pem →
    ∃ pem', (KnownHosts.load toml (s.step toml e).file).lookup key = some pem' ∧
      (pem' = pem ∨ (key, pem') ∈ (s.step toml e).inserted)

/-- the event writes nothing, or all it has to -/
def HostsEvent.Succeeds : HostsEvent → Prop
  | .load => True
  | .insertAndSave _ _ outcome => outcome = .done

/-- nothing is loaded that a failed write left -/
def LoadsWhole (s : StoredHosts B) : HostsEvent → Prop
  | .load => s.torn = false
  | .insertAndSave _ _ _ => True

end

/-! ## Loading -/

theorem lookup_stringTable {t : TomlTable} {hosts : KnownHosts} (h : stringTable t = some hosts) (key pem : String) :
    hosts.lookup key = some pem ↔ t.lookup key = some (.string pem) := by
  unfold stringTable at h
  split_ifs at h with hall
  obtain rfl := Option.some.inj h
  rw [HashMap.lookup_mapTo, Option.map_eq_some_iff]
  refine ⟨?_, fun hpem => ⟨_, hpem, rfl⟩⟩
  rintro ⟨v, hv, rfl⟩
  obtain ⟨s, hs⟩ := Option.isSome_iff_exists.1 (List.all_eq_true.1 hall _ (HashMap.mem_entries.2 hv))
  obtain rfl : v = .string s := TomlValue.string?_eq_some.1 hs
  exact hv

theorem stringTable_of_strings {t : TomlTable} (h : ∀ key v, t.lookup key = some v → ∃ s, v = .string s) :
    ∃ hosts, stringTable t = some hosts := by
  have hall : t.entries.all (fun e => e.2.string?.isSome) = true := by
    rw [List.all_eq_true]
    intro e he
    obtain ⟨s, hs⟩ := h e.1 e.2 (HashMap.mem_entries.1 he)
    rw [hs]
    rfl
  unfold stringTable
  rw [if_pos hall]
  exact ⟨_, rfl⟩

section

variable {B : Type} {toml : Toml B}

/-- A table of strings is loaded as it is. -/
theorem lookup_load {file : Option (List B)} (h : AllStrings toml file) (key pem : String) :
    (KnownHosts.load toml file).lookup key = some pem ↔ EntryIn toml file key pem := by
  cases file with
  | none =>
    refine iff_of_false ?_ ?_
    · simp [KnownHosts.load]
    · rintro ⟨content, t, hfile, -⟩
      exact nomatch hfile
  | some content =>
    obtain ⟨t, hosts, hread, hstrings⟩ := h content rfl
    have hload : KnownHosts.load toml (some content) = hosts := by
      simp only [KnownHosts.load, Option.bind_some, hread, hstrings, Option.getD_some]
    rw [hload, lookup_stringTable hstrings]
    refine ⟨fun hlookup => ⟨content, t, rfl, hread, hlookup⟩, ?_⟩
    rintro ⟨content', t', hfile, hread', hlookup⟩
    obtain rfl := Option.some.inj hfile
    rw [hread] at hread'
    rwa [Option.some.inj hread']

/-- any other file is loaded as an empty store -/
theorem load_of_not_allStrings {file : Option (List B)} (h : ¬AllStrings toml file) : KnownHosts.load toml file = ∅ := by
  cases file with
  | none => exact absurd (fun content hcontent => nomatch hcontent) h
  | some content =>
    cases hread : toml.read content with
    | none => simp only [KnownHosts.load, Option.bind_some, hread, Option.bind_none, Option.getD_none]
    | some t =>
      cases hstrings : stringTable t with
      | none => simp only [KnownHosts.load, Option.bind_some, hread, hstrings, Option.getD_none]
      | some hosts =>
        refine absurd ?_ h
        intro content' hcontent
        obtain rfl := Option.some.inj hcontent
        exact ⟨t, hosts, hread, hstrings⟩

theorem allStrings_write (hosts : KnownHosts) : AllStrings toml (some (toml.write hosts)) := by
  intro content hcontent
  obtain rfl := Option.some.inj hcontent
  obtain ⟨t, hread, hlookup⟩ := toml.read_write hosts
  have hvalues : ∀ key v, t.lookup key = some v → ∃ s, v = .string s := by
    intro key v hv
    rw [hlookup, Option.map_eq_some_iff] at hv
    obtain ⟨s, -, rfl⟩ := hv
    exact ⟨s, rfl⟩
  obtain ⟨read, hstrings⟩ := stringTable_of_strings hvalues
  exact ⟨t, read, hread, hstrings⟩

theorem lookup_load_write (hosts : KnownHosts) (key : String) :
    (KnownHosts.load toml (some (toml.write hosts))).lookup key = hosts.lookup key := by
  obtain ⟨t, hread, hlookup⟩ := toml.read_write hosts
  ext pem
  rw [lookup_load (allStrings_write hosts)]
  refine ⟨?_, ?_⟩
  · rintro ⟨content, t', hfile, hread', hlookup'⟩
    obtain rfl := Option.some.inj hfile
    rw [hread] at hread'
    obtain rfl := Option.some.inj hread'
    rw [hlookup, Option.map_eq_some_iff] at hlookup'
    obtain ⟨s, hs, hsame⟩ := hlookup'
    rw [hs, TomlValue.string.inj hsame]
  · intro hpem
    exact ⟨_, t, rfl, hread, by rw [hlookup, hpem]; rfl⟩

/-! ## Runs -/

/-- the store pins what the first file and the insertions say, and the file has it if the last write succeeded -/
structure KeepsPins (toml : Toml B) (first : Option (List B)) (s : StoredHosts B) : Prop where
  origin : ∀ key pem, s.hosts.lookup key = some pem → EntryIn toml first key pem ∨ (key, pem) ∈ s.inserted
  pinned : ∀ key pem, EntryIn toml first key pem ∨ (key, pem) ∈ s.inserted → s.hosts.Pinned key
  whole : s.torn = false → AllStrings toml s.file
  saved : s.torn = false → ∀ key, (KnownHosts.load toml s.file).lookup key = s.hosts.lookup key

theorem keepsPins_init {file : Option (List B)} (h : AllStrings toml file) : KeepsPins toml file (.init toml file) where
  origin := fun key pem hlookup => Or.inl ((lookup_load h key pem).1 hlookup)
  pinned := by
    rintro key pem (hentry | hinserted)
    · exact ⟨pem, (lookup_load h key pem).2 hentry⟩
    · exact absurd hinserted List.not_mem_nil
  whole := fun _ => h
  saved := fun _ _ => rfl

theorem keepsPins_load {first : Option (List B)} {s : StoredHosts B} (h : KeepsPins toml first s)
    (hwhole : s.torn = false) : KeepsPins toml first (s.step toml .load) where
  origin := fun key pem hlookup => h.origin key pem ((h.saved hwhole key).symm.trans hlookup)
  pinned := by
    intro key pem hpin
    obtain ⟨pem', hlookup⟩ := h.pinned key pem hpin
    exact ⟨pem', (h.saved hwhole key).trans hlookup⟩
  whole := h.whole
  saved := fun _ _ => rfl

theorem keepsPins_insertAndSave {first : Option (List B)} {s : StoredHosts B} (h : KeepsPins toml first s)
    (key pem : String) (outcome : WriteOutcome) :
    KeepsPins toml first (s.step toml (.insertAndSave key pem outcome)) where
  origin := by
    intro key' pem' hlookup
    simp only [StoredHosts.step, KnownHosts.lookup_insertAndSave] at hlookup
    split_ifs at hlookup with hkey
    · obtain rfl := Option.some.inj hlookup
      rw [hkey]
      exact Or.inr (List.mem_append_right _ List.mem_cons_self)
    · exact (h.origin key' pem' hlookup).imp_right (List.mem_append_left _)
  pinned := by
    intro key' pem' hpin
    simp only [StoredHosts.step, List.mem_append, List.mem_singleton, Prod.mk.injEq] at hpin ⊢
    rw [KnownHosts.pinned_insertAndSave]
    rcases hpin with hentry | hinserted | ⟨hkey, -⟩
    · exact Or.inr (h.pinned key' pem' (Or.inl hentry))
    · exact Or.inr (h.pinned key' pem' (Or.inr hinserted))
    · exact Or.inl hkey
  whole := by
    intro hdone
    cases outcome with
    | done => exact allStrings_write _
    | failed left => exact nomatch hdone
  saved := by
    intro hdone key'
    cases outcome with
    | done => exact lookup_load_write _ key'
    | failed left => exact nomatch hdone

theorem keepsPins_run {first : Option (List B)} {s : StoredHosts B} (h : KeepsPins toml first s) {es : List HostsEvent}
    (hes : Runs.Meets (StoredHosts.step toml) LoadsWhole s es) :
    KeepsPins toml first (Runs.run (StoredHosts.step toml) s es) := by
  induction es generalizing s with
  | nil => exact h
  | cons e es ih =>
    obtain ⟨hwhole, hes⟩ := hes
    rw [Runs.run_cons]
    apply ih _ hes
    cases e with
    | load => exact keepsPins_load h hwhole
    | insertAndSave key pem outcome => exact keepsPins_insertAndSave h key pem outcome

/-- a step that succeeds on a whole file loses no entry of it -/
theorem entriesSurvive_of_keepsPins {first : Option (List B)} {s : StoredHosts B} (h : KeepsPins toml first s)
    (hwhole : s.torn = false) {e : HostsEvent} (he : e.Succeeds) : EntriesSurvive toml s e := by
  intro key pem hentry
  have hlookup := (lookup_load (h.whole hwhole) key pem).2 hentry
  cases e with
  | load => exact ⟨pem, hlookup, Or.inl rfl⟩
  | insertAndSave key' pem' outcome =>
    obtain rfl : outcome = .done := he
    rw [h.saved hwhole key] at hlookup
    simp only [StoredHosts.step, writeFile, lookup_load_write, KnownHosts.lookup_insertAndSave]
    by_cases hkey : key = key'
    · rw [if_pos hkey, hkey]
      exact ⟨pem', rfl, Or.inr (List.mem_append_right _ List.mem_cons_self)⟩
    · rw [if_neg hkey]
      exact ⟨pem, hlookup, Or.inl rfl⟩

/-- Durable pins. Let the file be missing or a table of strings at first, and let no load read what a failed write left.
Then, in every state, every server with an entry in the first file or an insertion since is pinned in memory, to the PEM
of that file or to one inserted for this very key. Unless the last write failed, the next load finds the same, and no
load or successful insertion loses an entry of the file. -/
theorem pins_durable (toml : Toml B) {file : Option (List B)} (hfile : AllStrings toml file) {es : List HostsEvent}
    (hes : Runs.Meets (StoredHosts.step toml) LoadsWhole (.init toml file) es) :
    let s := Runs.run (StoredHosts.step toml) (.init toml file) es
    (∀ key pem, EntryIn toml file key pem ∨ (key, pem) ∈ s.inserted →
      ∃ pem', s.hosts.lookup key = some pem' ∧ (EntryIn toml file key pem' ∨ (key, pem') ∈ s.inserted)) ∧
    (s.torn = false → (∀ key, (KnownHosts.load toml s.file).lookup key = s.hosts.lookup key) ∧
      ∀ e : HostsEvent, e.Succeeds → EntriesSurvive toml s e) := by
  intro s
  have h : KeepsPins toml file s := keepsPins_run (keepsPins_init hfile) hes
  refine ⟨?_, fun hwhole => ⟨h.saved hwhole, fun e he => entriesSurvive_of_keepsPins h hwhole he⟩⟩
  intro key pem hpin
  obtain ⟨pem', hlookup⟩ := h.pinned key pem hpin
  exact ⟨pem', hlookup, h.origin key pem' hlookup⟩

end

/-! ## Lines of quoted strings -/

namespace TomlLines

instance (es : List (Sigma fun _ : String => TomlValue)) : Decidable es.NodupKeys :=
  inferInstanceAs (Decidable es.keys.Nodup)

def escape (c : Char) : List Char :=
  if c = '"' then ['\\', '"'] else if c = '\\' then ['\\', '\\'] else if c = '\n' then ['\\', 'n'] else [c]

/-- a basic string after its opening quote or, escaped, after a backslash in it; and the text after its closing quote -/
def basicString (escaped : Bool) : List Char → Option (List Char × List Char)
  | [] => none
  | c :: text =>
    if escaped then (basicString false text).map fun r => ((if c = 'n' then '\n' else c) :: r.1, r.2)
    else if c = '"' then some ([], text)
    else if c = '\\' then basicString true text
    else (basicString false text).map fun r => (c :: r.1, r.2)

theorem basicString_escape (c : Char) (text : List Char) :
    basicString false (escape c ++ text) = (basicString false text).map fun r => (c :: r.1, r.2) := by
  unfold escape
  split_ifs with hquote hslash hbreak
  · simp [basicString, hquote]
  · simp [basicString, hslash]
  · simp [basicString, hbreak]
  · simp [basicString, hquote, hslash]

theorem basicString_flatMap (s rest : List Char) :
    basicString false (s.flatMap escape ++ '"' :: rest) = some (s, rest) := by
  induction s with
  | nil => rfl
  | cons c s ih =>
    rw [List.flatMap_cons, List.append_assoc, basicString_escape, ih]
    rfl

/-- a string, or an integer of one digit -/
def value : List Char → Option (TomlValue × List Char)
  | '"' :: text => (basicString false text).map fun r => (.string (String.ofList r.1), r.2)
  | c :: text => if c.isDigit then some (.other, text) else none
  | [] => none

/-- a line, key = value -/
def line (text : List Char) : Option ((Sigma fun _ : String => TomlValue) × List Char) :=
  match text with
  | '"' :: text =>
    match basicString false text with
    | some (key, ' ' :: '=' :: ' ' :: text) =>
      match value text with
      | some (v, '\n' :: text) => some (⟨String.ofList key, v⟩, text)
      | _ => none
    | _ => none
  | _ => none

/-- so many lines at most -/
def lines : ℕ → List Char → Option (List (Sigma fun _ : String => TomlValue))
  | 0, text => if text.isEmpty then some [] else none
  | n + 1, text =>
    if text.isEmpty then some [] else (line text).bind fun r => (lines n r.2).map fun es => r.1 :: es

/-- distinct keys -/
def read (text : List Char) : Option TomlTable :=
  (lines text.length text).bind fun es => if h : es.NodupKeys then some ⟨es, h⟩ else none

def writeLine (e : Sigma fun _ : String => String) : List Char :=
  '"' :: (e.1.toList.flatMap escape ++ '"' :: ' ' :: '=' :: ' ' :: '"' :: (e.2.toList.flatMap escape ++ ['"', '\n']))

def write (hosts : KnownHosts) : List Char := hosts.entries.flatMap writeLine

theorem line_writeLine (e : Sigma fun _ : String => String) (rest : List Char) :
    line (writeLine e ++ rest) = some (⟨e.1, .string e.2⟩, rest) := by
  have hkey := basicString_flatMap e.1.toList
    (' ' :: '=' :: ' ' :: '"' :: (e.2.toList.flatMap escape ++ '"' :: '\n' :: rest))
  have hvalue := basicString_flatMap e.2.toList ('\n' :: rest)
  simp only [writeLine, line, List.cons_append, List.append_assoc, List.nil_append, hkey, value, hvalue,
    Option.map_some, String.ofList_toList]

theorem lines_write (es : List (Sigma fun _ : String => String)) {n : ℕ} (h : es.length ≤ n) :
    lines n (es.flatMap writeLine) = some (es.map fun e => ⟨e.1, .string e.2⟩) := by
  induction es generalizing n with
  | nil => cases n <;> rfl
  | cons e es ih =>
    cases n with
    | zero => exact absurd h (Nat.not_succ_le_zero _)
    | succ n =>
      have htext : ¬(writeLine e ++ es.flatMap writeLine).isEmpty := nofun
      rw [List.flatMap_cons, lines, if_neg htext, line_writeLine, Option.bind_some, ih (Nat.le_of_succ_le_succ h)]
      rfl

theorem length_writeLine (e : Sigma fun _ : String => String) : 1 ≤ (writeLine e).length := Nat.le_add_left _ _

theorem length_write (es : List (Sigma fun _ : String => String)) : es.length ≤ (es.flatMap writeLine).length := by
  induction es with
  | nil => exact Nat.le_refl _
  | cons e es ih =>
    rw [List.flatMap_cons, List.length_append, List.length_cons, Nat.add_comm]
    exact Nat.add_le_add (length_writeLine e) ih

theorem read_write (hosts : KnownHosts) :
    ∃ t, read (write hosts) = some t ∧ ∀ key, t.lookup key = (hosts.lookup key).map .string := by
  refine ⟨HashMap.mapTo .string hosts, ?_, HashMap.lookup_mapTo _ hosts⟩
  have hnodup := (HashMap.mapTo TomlValue.string hosts).nodupKeys
  unfold read write
  rw [lines_write hosts.entries (length_write hosts.entries), Option.bind_some]
  exact dif_pos hnodup

/-- this much of TOML -/
def toml : Toml Char := ⟨read, write, read_write⟩

end TomlLines

/-- a missing file, a server pinned, a write that fails after three letters, and one that succeeds -/
theorem pins_durable_lines :
    let toml := TomlLines.toml
    let es : List HostsEvent := [.load, .insertAndSave "a:1" "A" .done, .insertAndSave "b:2" "B" (.failed (some 3)),
      .insertAndSave "c:3" "C" .done]
    let s := Runs.run (StoredHosts.step toml) (.init toml none) es
    (∀ key pem, EntryIn toml none key pem ∨ (key, pem) ∈ s.inserted →
      ∃ pem', s.hosts.lookup key = some pem' ∧ (EntryIn toml none key pem' ∨ (key, pem') ∈ s.inserted)) ∧
    (s.torn = false → (∀ key, (KnownHosts.load toml s.file).lookup key = s.hosts.lookup key) ∧
      ∀ e : HostsEvent, e.Succeeds → EntriesSurvive toml s e) := by
  intro toml es
  have hmissing : AllStrings toml none := fun _ h => nomatch h
  exact pins_durable toml hmissing ⟨rfl, trivial, trivial, trivial, trivial⟩

/-- a file with an integer in it is loaded as an empty store, and so is what a failed write leaves -/
theorem damaged_file_forgets :
    let toml := TomlLines.toml
    let file := some "\"a:1\" = \"A\"\n\"b:2\" = 7\n".toList
    let pinned := some "\"a:1\" = \"A\"\n".toList
    (EntryIn toml file "a:1" "A" ∧ ¬EntriesSurvive toml (.init toml file) .load) ∧
    (EntryIn toml pinned "a:1" "A" ∧
      ¬EntriesSurvive toml (.init toml pinned) (.insertAndSave "b:2" "B" (.failed (some 0)))) := by
  intro toml file pinned
  have hentry : EntryIn toml file "a:1" "A" :=
    ⟨_, ⟨[⟨"a:1", .string "A"⟩, ⟨"b:2", .other⟩], by decide⟩, rfl, rfl, rfl⟩
  have hentry' : EntryIn toml pinned "a:1" "A" := ⟨_, ⟨[⟨"a:1", .string "A"⟩], by decide⟩, rfl, rfl, rfl⟩
  refine ⟨⟨hentry, ?_⟩, hentry', ?_⟩
  · intro h
    obtain ⟨pem, hlookup, -⟩ := h "a:1" "A" hentry
    have hempty : (KnownHosts.load toml file).lookup "a:1" = none := by decide
    exact nomatch hempty.symm.trans hlookup
  · intro h
    obtain ⟨pem, hlookup, -⟩ := h "a:1" "A" hentry'
    have hempty : (KnownHosts.load toml (some [])).lookup "a:1" = none := by decide
    exact nomatch hempty.symm.trans hlookup

end MumbledFlight
