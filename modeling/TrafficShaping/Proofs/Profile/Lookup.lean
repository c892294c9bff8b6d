/-
Profiles found and read (`found_profile_is_read`).

A reference leads to one path at most: its own where a file is there, and
otherwise the one that its name has in the last of the directories in which
that is a file. Directories in front of a list are asked last, so they change
nothing once something is found; one more directory at the end is asked first,
and changes what is found only by holding a file of that name itself
(`LeadsTo.more`, `LeadsTo.one_more`).

Which file it is depends on nothing that is in the files, so what is found is
what is read, and there is no second choice. A file holds a profile, or it is
of no use, and then the failure names its path; or else the program breaks off
while reading it. The last is the one way in which no failure is reported
(`load_breaks_off_on_cut_character`).
-/
import Mathlib.Control.Monad.Basic
import TrafficShaping.Files.Tree
import TrafficShaping.Profile.Lookup
import TrafficShaping.Proofs.Profile.Breaking
import TrafficShaping.Proofs.Text.Encoding

namespace TrafficShaping

-- ==================================================== statement vocabulary

namespace Files

variable (fs : Files)

/-- A file is at a path, whether or not it can be read. A directory is none. -/
def HasFile (path : String) : Prop :=
  (∃ bytes, fs.entry path = .file bytes) ∨ ∃ reason, fs.entry path = .unreadable reason

/-- A file is at a path that holds this text. -/
def HasText (path text : String) : Prop :=
  fs.entry path = .file (Text.Utf8.encode text.toList)

end Files

/-- A failure that is reported, and with a path. -/
structure Failure.Names (f : Failure) (path : String) : Prop where
  reported : f.breaksOff = false
  on_one_line : ∃ cause, f.chain = "Failed to load profile " ++ path ++ ": " ++ cause
  at_length : ∃ causes,
    f.report = "Failed to load profile " ++ path ++ "\n\nCaused by:\n" ++ causes

namespace Profile

variable (fs : Files) (dirs : List String) (reference : String)

/-- The path that a reference leads to. -/
inductive LeadsTo : String → Prop
  | itself (h : fs.HasFile reference) : LeadsTo reference
  | by_name {before after : List String} {dir : String} (hreference : ¬ fs.HasFile reference)
    (hdirs : dirs = before ++ dir :: after)
    (hdir : fs.HasFile (Files.join dir (reference ++ ".json5")))
    (hafter : ∀ d ∈ after, ¬ fs.HasFile (Files.join d (reference ++ ".json5"))) :
    LeadsTo (Files.join dir (reference ++ ".json5"))

/-- No file is where a reference might lead. -/
def LeadsNowhere : Prop :=
  ¬ fs.HasFile reference ∧ ∀ dir ∈ dirs, ¬ fs.HasFile (Files.join dir (reference ++ ".json5"))

variable (path : String)

/-- A file is of use: its text is that of a profile. -/
def Yields (r : Reading) : Prop := ∃ text, fs.HasText path text ∧ ofText text = .ok r

/-- Why a file is of no use: it cannot be read, its bytes are those of no text,
or the text is that of no profile. -/
inductive Useless : Fault → Prop
  | unreadable {reason : String} (h : fs.entry path = .unreadable reason) : Useless (.io reason)
  | no_text {bytes : List UInt8} (h : fs.entry path = .file bytes)
    (hbytes : ∀ cs, bytes ≠ Text.Utf8.encode cs) :
    Useless (.io "stream did not contain valid UTF-8")
  | no_profile {text : String} {e : ReadError} (h : fs.HasText path text)
    (he : ofText text = .error e) (hbreaks : ¬ BreaksOff text) :
    Useless (.badProfile path e.message)

/-- Reading a file breaks off: in the list of the ports something stands with a
character across its second byte. -/
def CutsShort : Prop := ∃ text, fs.HasText path text ∧ BreaksOff text

end Profile

-- ============================================================== finding

namespace Files

variable {fs : Files} {path text : String}

theorem isFile_iff : fs.isFile path = true ↔ fs.HasFile path := by
  unfold isFile HasFile
  cases fs.entry path <;> simp

end Files

namespace Profile

variable {fs : Files} {dirs : List String} {reference path : String}

/-- A directory is chosen where the profile's own file name is in it. -/
theorem candidate_isFile_iff {dir : String} :
    (fs.isFile ∘ candidate reference) dir = true
      ↔ fs.HasFile (Files.join dir (reference ++ ".json5")) :=
  Files.isFile_iff

/-- The directories are asked from the last to the first. -/
theorem find?_candidates_eq_some_iff :
    (dirs.reverse.map (candidate reference)).find? fs.isFile = some path
      ↔ ∃ before dir after, dirs = before ++ dir :: after
        ∧ fs.HasFile (Files.join dir (reference ++ ".json5"))
        ∧ (∀ d ∈ after, ¬ fs.HasFile (Files.join d (reference ++ ".json5")))
        ∧ path = Files.join dir (reference ++ ".json5") := by
  rw [List.find?_map, Option.map_eq_some_iff]
  simp only [List.find?_eq_some_iff_append, List.reverse_eq_iff]
  constructor
  · rintro ⟨dir, ⟨hdir, after, before, hdirs, hafter⟩, rfl⟩
    refine ⟨before.reverse, dir, after.reverse, ?_, candidate_isFile_iff.1 hdir, ?_, rfl⟩
    · simpa using hdirs
    · intro d hd
      rw [← candidate_isFile_iff]
      simpa using hafter d (List.mem_reverse.1 hd)
  · rintro ⟨before, dir, after, hdirs, hdir, hafter, rfl⟩
    refine ⟨dir, ⟨candidate_isFile_iff.2 hdir, after.reverse, before.reverse, ?_, ?_⟩, rfl⟩
    · simpa using hdirs
    · intro d hd
      have hnone := hafter d (List.mem_reverse.1 hd)
      rw [← candidate_isFile_iff] at hnone
      simpa using hnone

/-- None is found where no directory has the file. -/
theorem find?_candidates_eq_none_iff :
    (dirs.reverse.map (candidate reference)).find? fs.isFile = none
      ↔ ∀ dir ∈ dirs, ¬ fs.HasFile (Files.join dir (reference ++ ".json5")) := by
  rw [List.find?_map, Option.map_eq_none_iff, List.find?_eq_none]
  simp only [List.mem_reverse, candidate_isFile_iff]

/-- A reference that is a file is found first. -/
theorem find?_choices_of_hasFile (h : fs.HasFile reference) :
    (choices dirs reference).find? fs.isFile = some reference :=
  List.find?_cons_of_pos (Files.isFile_iff.2 h)

/-- Any other one is looked for in the directories. -/
theorem find?_choices_of_not_hasFile (h : ¬ fs.HasFile reference) :
    (choices dirs reference).find? fs.isFile
      = (dirs.reverse.map (candidate reference)).find? fs.isFile := by
  rw [← Files.isFile_iff] at h
  exact List.find?_cons_of_neg h

/-- The search finds the file that a reference leads to. -/
theorem find?_choices_eq_some_iff :
    (choices dirs reference).find? fs.isFile = some path ↔ LeadsTo fs dirs reference path := by
  by_cases hreference : fs.HasFile reference
  · rw [find?_choices_of_hasFile hreference, Option.some.injEq]
    constructor
    · intro h
      subst h
      exact .itself hreference
    · intro h
      cases h with
      | itself => rfl
      | by_name hnone => exact absurd hreference hnone
  · rw [find?_choices_of_not_hasFile hreference, find?_candidates_eq_some_iff]
    constructor
    · intro h
      obtain ⟨before, dir, after, hdirs, hdir, hafter, rfl⟩ := h
      exact .by_name hreference hdirs hdir hafter
    · intro h
      cases h with
      | itself hfile => exact absurd hfile hreference
      | by_name _ hdirs hdir hafter => exact ⟨_, _, _, hdirs, hdir, hafter, rfl⟩

theorem find?_choices_eq_none_iff :
    (choices dirs reference).find? fs.isFile = none ↔ LeadsNowhere fs dirs reference := by
  unfold LeadsNowhere
  by_cases hreference : fs.HasFile reference
  · rw [find?_choices_of_hasFile hreference]
    exact iff_of_false (fun h => nomatch h) fun h => h.1 hreference
  · rw [find?_choices_of_not_hasFile hreference, find?_candidates_eq_none_iff,
      and_iff_right hreference]

/-- What is found is where the reference leads. -/
theorem resolve_eq_ok_iff :
    resolve fs dirs reference = .ok path ↔ LeadsTo fs dirs reference path := by
  rw [← find?_choices_eq_some_iff]
  unfold resolve
  cases (choices dirs reference).find? fs.isFile <;> simp

/-- Nothing is found where the reference leads nowhere. -/
theorem resolve_eq_error_iff {f : Failure} :
    resolve fs dirs reference = .error f
      ↔ LeadsNowhere fs dirs reference ∧ f = .profileNotFound reference dirs := by
  rw [← find?_choices_eq_none_iff]
  unfold resolve
  cases (choices dirs reference).find? fs.isFile <;> simp [eq_comm]

/-- Directories in front are asked last. -/
theorem LeadsTo.more (h : LeadsTo fs dirs reference path) (more : List String) :
    LeadsTo fs (more ++ dirs) reference path := by
  cases h with
  | itself hfile => exact .itself hfile
  | @by_name before after dir hreference hdirs hdir hafter =>
      have hmore : more ++ dirs = (more ++ before) ++ dir :: after := by
        rw [hdirs, List.append_assoc]
      exact .by_name hreference hmore hdir hafter

/-- One more directory at the end is asked first, and only for a name. -/
theorem LeadsTo.one_more (h : LeadsTo fs dirs reference path) (dir : String) :
    LeadsTo fs (dirs ++ [dir]) reference path
      ∨ ¬ fs.HasFile reference ∧ fs.HasFile (Files.join dir (reference ++ ".json5"))
        ∧ LeadsTo fs (dirs ++ [dir]) reference (Files.join dir (reference ++ ".json5")) := by
  cases h with
  | itself hfile => exact Or.inl (.itself hfile)
  | @by_name before after found hreference hdirs hfound hafter =>
      by_cases hdir : fs.HasFile (Files.join dir (reference ++ ".json5"))
      · exact Or.inr ⟨hreference, hdir, .by_name hreference rfl hdir fun d hd => nomatch hd⟩
      · have hmore : dirs ++ [dir] = before ++ found :: (after ++ [dir]) := by
          rw [hdirs, List.append_assoc, List.cons_append]
        refine Or.inl (.by_name hreference hmore hfound ?_)
        · intro d hd
          rcases List.mem_append.1 hd with hmem | hlast
          · exact hafter d hmem
          · rwa [List.mem_singleton.1 hlast]

theorem LeadsTo.hasFile (h : LeadsTo fs dirs reference path) : fs.HasFile path := by
  cases h with
  | itself hfile => exact hfile
  | by_name _ _ hdir _ => exact hdir

-- ============================================================== reading

variable {r : Reading} {text : String} {cause : Fault}

/-- The text of a file is read from its bytes. -/
theorem readText_of_hasText (h : fs.HasText path text) : fs.readText path = .ok text := by
  have hdecode : Text.Utf8.decode? (Text.Utf8.encode text.toList) = some text.toList :=
    Text.Utf8.decode?_eq_some_iff.2 rfl
  unfold Files.HasText at h
  unfold Files.readText
  simp only [h, hdecode, String.ofList_toList]

/-- A file with a text is read as that text is. -/
theorem ofFile_of_hasText (h : fs.HasText path text) : ofFile fs path = parse text path := by
  unfold ofFile
  rw [readText_of_hasText h]
  rfl

theorem ofFile_of_yields (h : Yields fs path r) : ofFile fs path = .ok r := by
  obtain ⟨text, htext, hr⟩ := h
  rw [ofFile_of_hasText htext, parse, hr]

/-- A file whose text breaks reading off gives nothing at all. -/
theorem ofFile_of_cutsShort (h : CutsShort fs path) : ofFile fs path = .error .brokenOff := by
  obtain ⟨text, htext, hcut⟩ := h
  rw [ofFile_of_hasText htext, parse_eq_brokenOff_iff.2 hcut]

/-- A file of no use gives the reason. The three reasons exclude each other, and
a text that breaks reading off is none of them. -/
theorem ofFile_of_useless (h : Useless fs path cause) : ofFile fs path = .error cause := by
  cases h with
  | unreadable h =>
      unfold ofFile Files.readText
      rw [h]
      rfl
  | @no_text bytes h hbytes =>
      have hdecode : Text.Utf8.decode? bytes = none := by
        rw [Option.eq_none_iff_forall_ne_some]
        intro cs hcs
        exact hbytes cs (Text.Utf8.decode?_eq_some_iff.1 hcs)
      unfold ofFile Files.readText
      simp only [h, hdecode]
      rfl
  | no_profile htext he hbreaks =>
      rw [ofFile_of_hasText htext, parse]
      split
      · next hok =>
        rw [he] at hok
        cases hok
      · next hbroken => exact absurd (ofText_eq_cutCharacter_iff.1 hbroken) hbreaks
      · next e' he' =>
        rw [he] at he'
        rw [Except.error.inj he']

/-- A file comes to one of three things. -/
theorem file_cases (h : fs.HasFile path) :
    (∃ r, Yields fs path r) ∨ (∃ cause, Useless fs path cause) ∨ CutsShort fs path := by
  obtain ⟨bytes, hbytes⟩ | ⟨reason, hreason⟩ := h
  · cases hdecode : Text.Utf8.decode? bytes with
    | none =>
        refine Or.inr (Or.inl ⟨_, .no_text hbytes fun cs hcs => ?_⟩)
        rw [Text.Utf8.decode?_eq_some_iff.2 hcs] at hdecode
        cases hdecode
    | some cs =>
        have htext : fs.HasText path (String.ofList cs) := by
          unfold Files.HasText
          rw [hbytes, String.toList_ofList, ← Text.Utf8.decode?_eq_some_iff.1 hdecode]
        cases hread : ofText (String.ofList cs) with
        | ok r => exact Or.inl ⟨r, _, htext, hread⟩
        | error e =>
            by_cases hbreaks : BreaksOff (String.ofList cs)
            · exact Or.inr (Or.inr ⟨_, htext, hbreaks⟩)
            · exact Or.inr (Or.inl ⟨_, .no_profile htext hread hbreaks⟩)
  · exact Or.inr (Or.inl ⟨_, .unreadable hreason⟩)

/-- Loading reads the file that the reference leads to, and names it when that
fails. -/
theorem load_of_leadsTo (h : LeadsTo fs dirs reference path) :
    load fs dirs reference = (ofFile fs path).mapError (Failure.profileNotLoaded path) := by
  unfold load
  rw [resolve_eq_ok_iff.2 h]
  cases hread : ofFile fs path with
  | ok r => simp [bind, Except.bind, hread, Except.mapError]
  | error cause => simp [bind, Except.bind, hread, Except.mapError]

theorem load_of_yields (h : LeadsTo fs dirs reference path) (hr : Yields fs path r) :
    load fs dirs reference = .ok r := by
  rw [load_of_leadsTo h, ofFile_of_yields hr]
  rfl

theorem load_of_useless (h : LeadsTo fs dirs reference path) (hcause : Useless fs path cause) :
    load fs dirs reference = .error (.profileNotLoaded path cause) := by
  rw [load_of_leadsTo h, ofFile_of_useless hcause]
  rfl

theorem load_of_cutsShort (h : LeadsTo fs dirs reference path) (hcut : CutsShort fs path) :
    load fs dirs reference = .error (.profileNotLoaded path .brokenOff) := by
  rw [load_of_leadsTo h, ofFile_of_cutsShort hcut]
  rfl

/-- Loading succeeds with the profile in the file that is found. -/
theorem load_eq_ok_iff (h : LeadsTo fs dirs reference path) :
    load fs dirs reference = .ok r ↔ Yields fs path r := by
  refine ⟨fun hload => ?_, load_of_yields h⟩
  rcases file_cases h.hasFile with ⟨r', hr'⟩ | ⟨cause, hcause⟩ | hcut
  · rw [load_of_yields h hr'] at hload
    rwa [← Except.ok.inj hload]
  · rw [load_of_useless h hcause] at hload
    cases hload
  · rw [load_of_cutsShort h hcut] at hload
    cases hload

/-- Loading fails with what is wrong with the file that is found. -/
theorem load_eq_error_iff {f : Failure} (h : LeadsTo fs dirs reference path) :
    load fs dirs reference = .error f
      ↔ (∃ cause, Useless fs path cause ∧ f = .profileNotLoaded path cause)
        ∨ CutsShort fs path ∧ f = .profileNotLoaded path .brokenOff := by
  constructor
  · intro hload
    rcases file_cases h.hasFile with ⟨r, hr⟩ | ⟨cause, hcause⟩ | hcut
    · rw [load_of_yields h hr] at hload
      cases hload
    · rw [load_of_useless h hcause] at hload
      exact Or.inl ⟨cause, hcause, (Except.error.inj hload).symm⟩
    · rw [load_of_cutsShort h hcut] at hload
      exact Or.inr ⟨hcut, (Except.error.inj hload).symm⟩
  · intro hbad
    obtain ⟨cause, hcause, rfl⟩ | ⟨hcut, rfl⟩ := hbad
    · exact load_of_useless h hcause
    · exact load_of_cutsShort h hcut

/-- Either a reference leads to a file, or loading fails for want of one. -/
theorem leadsTo_or_load (fs : Files) (dirs : List String) (reference : String) :
    (∃ path, LeadsTo fs dirs reference path)
      ∨ load fs dirs reference = .error (.profileNotFound reference dirs) := by
  unfold load
  cases h : resolve fs dirs reference with
  | ok path => exact Or.inl ⟨path, resolve_eq_ok_iff.1 h⟩
  | error f =>
      obtain ⟨-, rfl⟩ := resolve_eq_error_iff.1 h
      exact Or.inr rfl

/-- What is loaded is in the file that is found. -/
theorem yields_of_load (h : load fs dirs reference = .ok r) :
    ∃ path, LeadsTo fs dirs reference path ∧ Yields fs path r := by
  obtain ⟨path, hleads⟩ | hnone := leadsTo_or_load fs dirs reference
  · exact ⟨path, hleads, (load_eq_ok_iff hleads).1 h⟩
  · rw [hnone] at h
    cases h

end Profile

-- ============================================================== wording

/-- No fault has an empty message. -/
theorem Fault.exists_links (f : Fault) : ∃ link links, f.links = link :: links := by
  cases f <;> exact ⟨_, _, rfl⟩

/-- A profile that could not be loaded is named by its path, unless the program
breaks off. -/
theorem Failure.names_of_profileNotLoaded {path : String} {cause : Fault}
    (h : cause ≠ .brokenOff) : (Failure.profileNotLoaded path cause).Names path := by
  obtain ⟨link, links, hlinks⟩ := cause.exists_links
  have hcauses : (Failure.profileNotLoaded path cause).causes = link :: links := hlinks
  refine ⟨?_, ?_, ?_⟩
  · unfold Failure.breaksOff Failure.fault?
    simpa using h
  · unfold Failure.chain
    rw [hcauses, String.intercalate_cons_cons]
    exact ⟨_, rfl⟩
  · unfold Failure.report
    rw [hcauses]
    cases links with
    | nil => exact ⟨_, rfl⟩
    | cons next links => exact ⟨_, rfl⟩

namespace Profile

/-- Whatever is wrong with a file, the failure names it. -/
theorem Useless.names {fs : Files} {path : String} {cause : Fault}
    (h : Useless fs path cause) : (Failure.profileNotLoaded path cause).Names path := by
  refine Failure.names_of_profileNotLoaded ?_
  cases h <;> exact fun h => nomatch h

/-- Loading breaks off exactly where reading the file that is found does. -/
theorem load_breaks_off_iff {fs : Files} {dirs : List String} {reference : String} :
    (∃ f, load fs dirs reference = .error f ∧ f.breaksOff = true)
      ↔ ∃ path, LeadsTo fs dirs reference path ∧ CutsShort fs path := by
  constructor
  · intro h
    obtain ⟨f, hload, hbreaks⟩ := h
    obtain ⟨path, hleads⟩ | hnone := leadsTo_or_load fs dirs reference
    · obtain ⟨cause, hcause, rfl⟩ | ⟨hcut, -⟩ := (load_eq_error_iff hleads).1 hload
      · rw [hcause.names.reported] at hbreaks
        cases hbreaks
      · exact ⟨path, hleads, hcut⟩
    · rw [hnone] at hload
      rw [← Except.error.inj hload] at hbreaks
      cases hbreaks
  · intro h
    obtain ⟨path, hleads, hcut⟩ := h
    exact ⟨_, load_of_cutsShort hleads hcut, rfl⟩

-- ========================================================= the statement

/-- A reference leads to its own path where a file is there, and otherwise to the
file that its name has in the last directory with one; directories in front do
not change what is found, and one more at the end changes it only in favour of a
file of its own. What is found is what is read: either its profile is loaded, or
the failure names its path, unless reading breaks off. -/
theorem found_profile_is_read (fs : Files) (dirs : List String) (reference : String) :
    (∀ path, resolve fs dirs reference = .ok path ↔ LeadsTo fs dirs reference path)
      ∧ (∀ f, resolve fs dirs reference = .error f
        ↔ LeadsNowhere fs dirs reference ∧ f = .profileNotFound reference dirs)
      ∧ (∀ path, resolve fs dirs reference = .ok path →
        (∀ more, resolve fs (more ++ dirs) reference = .ok path)
          ∧ ∀ dir, resolve fs (dirs ++ [dir]) reference = .ok path
            ∨ ¬ fs.HasFile reference ∧ fs.HasFile (Files.join dir (reference ++ ".json5"))
              ∧ resolve fs (dirs ++ [dir]) reference
                = .ok (Files.join dir (reference ++ ".json5")))
      ∧ (LeadsNowhere fs dirs reference →
        load fs dirs reference = .error (.profileNotFound reference dirs))
      ∧ ∀ path, LeadsTo fs dirs reference path →
        (∀ r, load fs dirs reference = .ok r ↔ Yields fs path r)
          ∧ (∀ f, load fs dirs reference = .error f
            ↔ (∃ cause, Useless fs path cause ∧ f = .profileNotLoaded path cause)
              ∨ CutsShort fs path ∧ f = .profileNotLoaded path .brokenOff)
          ∧ (∀ cause, Useless fs path cause → (Failure.profileNotLoaded path cause).Names path)
          ∧ (Failure.profileNotLoaded path .brokenOff).breaksOff = true := by
  refine ⟨fun path => resolve_eq_ok_iff, fun f => resolve_eq_error_iff, fun path hfound => ?_,
    fun hnowhere => ?_, fun path hleads => ?_⟩
  · simp only [resolve_eq_ok_iff] at hfound ⊢
    exact ⟨hfound.more, hfound.one_more⟩
  · unfold load
    rw [resolve_eq_error_iff.2 ⟨hnowhere, rfl⟩]
    rfl
  · exact ⟨fun r => load_eq_ok_iff hleads, fun f => load_eq_error_iff hleads,
      fun cause => Useless.names, rfl⟩

/-- A directory of the name is passed over, a file whose bytes are those of no
text is not, though the next directory holds a profile. -/
theorem found_profile_is_read_behind_directory :
    let fs := (FileTree.ofFiles [("low/dsl.json5", some (Text.Utf8.encode "\x7b\x7d".toList)),
      ("mid/dsl.json5", some [0x7B, 0xFF, 0x7D]), ("high/dsl.json5", none)]).toFiles
    let dirs := ["low", "mid", "high"]
    let cause := Fault.io "stream did not contain valid UTF-8"
    resolve fs dirs "dsl" = .ok "mid/dsl.json5" ∧ LeadsTo fs dirs "dsl" "mid/dsl.json5"
      ∧ resolve fs ("high" :: dirs) "dsl" = .ok "mid/dsl.json5"
      ∧ Useless fs "mid/dsl.json5" cause
      ∧ load fs dirs "dsl" = .error (.profileNotLoaded "mid/dsl.json5" cause)
      ∧ (Failure.profileNotLoaded "mid/dsl.json5" cause).Names "mid/dsl.json5"
      ∧ LeadsTo fs ["low"] "dsl" "low/dsl.json5"
      ∧ (∃ r, load fs ["low"] "dsl" = .ok r ∧ Yields fs "low/dsl.json5" r)
      ∧ LeadsNowhere fs ["high"] "dsl"
      ∧ load fs ["high"] "dsl" = .error (.profileNotFound "dsl" ["high"]) := by
  intro fs dirs cause
  have hmid : resolve fs dirs "dsl" = .ok "mid/dsl.json5" := by decide +kernel
  have hlow : resolve fs ["low"] "dsl" = .ok "low/dsl.json5" := by decide +kernel
  have hhigh : resolve fs ["high"] "dsl" = .error (.profileNotFound "dsl" ["high"]) := by
    decide +kernel
  have huseless : Useless fs "mid/dsl.json5" cause := by
    have hentry : fs.entry "mid/dsl.json5" = .file [0x7B, 0xFF, 0x7D] := by decide +kernel
    refine .no_text hentry fun cs hcs => ?_
    have hdecode : Text.Utf8.decode? [0x7B, 0xFF, 0x7D] = none := by decide
    rw [Text.Utf8.decode?_eq_some_iff.2 hcs] at hdecode
    cases hdecode
  have hloaded : (load fs ["low"] "dsl").map (·.profile) = .ok Profile.empty := by decide +kernel
  obtain ⟨hleads, -, hkept, -, hread⟩ := found_profile_is_read fs dirs "dsl"
  obtain ⟨hleads', -, -, -, hread'⟩ := found_profile_is_read fs ["low"] "dsl"
  obtain ⟨-, hnowhere, -, hnothing, -⟩ := found_profile_is_read fs ["high"] "dsl"
  have hmid' := (hleads _).1 hmid
  have hlow' := (hleads' _).1 hlow
  have hhigh' := ((hnowhere _).1 hhigh).1
  obtain ⟨-, hfails, hnames, -⟩ := hread _ hmid'
  refine ⟨hmid, hmid', (hkept _ hmid).1 ["high"], huseless,
    (hfails _).2 (Or.inl ⟨_, huseless, rfl⟩), hnames _ huseless, hlow', ?_, hhigh',
    hnothing hhigh'⟩
  cases hload : load fs ["low"] "dsl" with
  | error f =>
      rw [hload] at hloaded
      cases hloaded
  | ok r => exact ⟨r, rfl, ((hread' _ hlow').1 r).1 hload⟩

/-- A file that is found and holds no profile need not end in a failure that
names it: where a text of more than one byte a character stands for a port, the
program breaks off. -/
theorem load_breaks_off_on_cut_character :
    let text := "\x7bexclude:['é']\x7d"
    let fs := (FileTree.ofFiles [("low/dsl.json5", some (Text.Utf8.encode "\x7b\x7d".toList)),
      ("high/dsl.json5", some (Text.Utf8.encode text.toList))]).toFiles
    LeadsTo fs ["low", "high"] "dsl" "high/dsl.json5"
      ∧ fs.HasText "high/dsl.json5" text ∧ (∀ r, ofText text ≠ .ok r)
      ∧ ¬ ∃ f, load fs ["low", "high"] "dsl" = .error f ∧ f.Names "high/dsl.json5" := by
  intro text fs
  have hleads : LeadsTo fs ["low", "high"] "dsl" "high/dsl.json5" :=
    resolve_eq_ok_iff.1 (by decide +kernel)
  have htext : fs.HasText "high/dsl.json5" text := by
    unfold Files.HasText
    decide +kernel
  have hcut : ofText text = .error .cutCharacter := by
    have hread : (ofText text).map (fun _ => ()) = .error .cutCharacter := by decide +kernel
    cases h : ofText text with
    | ok r =>
        rw [h] at hread
        cases hread
    | error e =>
        rw [h] at hread
        exact congrArg Except.error (Except.error.inj hread)
  refine ⟨hleads, htext, fun r => ?_, ?_⟩
  · rw [hcut]
    exact fun h => nomatch h
  · intro h
    obtain ⟨f, hload, hnames⟩ := h
    rw [load_of_cutsShort hleads ⟨text, htext, ofText_eq_cutCharacter_iff.1 hcut⟩] at hload
    have hreported := hnames.reported
    rw [← Except.error.inj hload] at hreported
    cases hreported

end Profile

end TrafficShaping
