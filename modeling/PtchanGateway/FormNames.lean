import PtchanGateway.ConfigFacts

/-!
The name field of a post: the public name, `##` and the tripcode secret, which the server takes apart at the
first `##`. The public name is trimmed but its characters are not checked, so it may hold a `##` of its own or
end with half of one, and then the server takes part of the name for the secret. Otherwise every field comes
apart as it was put together.
-/

namespace PtchanGateway

open TextRust Config

/-- The server takes the field apart at its first `##`. -/
def serverSplit (field : String) : Option (String × String) :=
  (splitOnce "##".toList field.toList).map fun (name, secret) => (String.ofList name, String.ofList secret)

namespace Config

/-- The name under which a posting is to appear. -/
def PostingConfig.publicName (posting : PostingConfig) : String := trim (posting.displayName.getD posting.name)

/-- The fields come apart as they were put together, are told apart by what they are made of, and fit. -/
structure Separates (config : Config) : Prop where
  split : ∀ posting ∈ config.postings,
    serverSplit posting.formName = some (posting.publicName, posting.tripcodeSecret)
  distinct : ∀ posting ∈ config.postings, ∀ other ∈ config.postings,
    (posting.publicName, posting.tripcodeSecret) ≠ (other.publicName, other.tripcodeSecret) →
      posting.formName ≠ other.formName
  short : ∀ posting ∈ config.postings, posting.formName.length ≤ 25

/-- The name has no `##` and does not end with half of one. -/
def Unmarked (name : String) : Prop := contains name "##" = false ∧ name.toList.getLast? ≠ some '#'

theorem toList_formName (posting : PostingConfig) : posting.formName.toList =
    posting.publicName.toList ++ (['#', '#'] ++ posting.tripcodeSecret.toList) := by
  rw [PostingConfig.formName, String.toList_append, String.toList_append, List.append_assoc]
  rfl

theorem serverSplit_eq_some {field name secret : String} :
    serverSplit field = some (name, secret) ↔
      splitOnce ['#', '#'] field.toList = some (name.toList, secret.toList) := by
  rw [serverSplit, show "##".toList = ['#', '#'] from rfl, Option.map_eq_some_iff]
  constructor
  · rintro ⟨⟨found, rest⟩, hsplit, heq⟩
    obtain ⟨hname, hsecret⟩ := Prod.mk.inj heq
    rw [hsplit, ← hname, ← hsecret, String.toList_ofList, String.toList_ofList]
  · intro hsplit
    refine ⟨_, hsplit, ?_⟩
    simp only [String.ofList_toList]

theorem serverSplit_formName_iff (posting : PostingConfig) :
    serverSplit posting.formName = some (posting.publicName, posting.tripcodeSecret) ↔ Unmarked posting.publicName := by
  rw [serverSplit_eq_some, toList_formName, splitOnce_twin, Unmarked, contains, decide_eq_false_iff_not]
  rfl

/-- Every field fits. -/
theorem formName_length_le {getSecret : String → String → Except Chain String} {parsers : Parsers} {file : FileConfig}
    {config : Config} (h : resolve getSecret parsers file = .ok config) {posting : PostingConfig}
    (hposting : posting ∈ config.postings) : posting.formName.length ≤ 25 := by
  obtain ⟨resolved, hfrom⟩ := resolvedFrom_of_resolve h
  rw [hfrom.postings] at hposting
  obtain ⟨entry, hentry, hsome⟩ := List.mem_filterMap.1 hposting
  obtain ⟨integration, -, hresolves⟩ := exists_of_forall₂ hfrom.resolves hentry
  have hresolve := hresolves.posting
  unfold resolvePosting at hresolve
  split at hresolve
  · rw [Except.ok.injEq, hsome] at hresolve
    cases hresolve
  · simp only [bind_eq_ok, ensure_eq_ok, exists_const, pure, Except.pure, Except.ok.injEq,
      decide_eq_true_eq] at hresolve
    obtain ⟨tripcodeSecret, -, postPassword, -, hlength, heq⟩ := hresolve
    rw [hsome, Option.some.injEq] at heq
    rw [← heq]
    exact hlength

/-- Integration names have no `#`, nor has what is left of one after trimming. -/
theorem unmarked_of_valid {name : String} (h : validIntegrationName name = true) : Unmarked (trim name) := by
  have hmark : '#' ∉ (trim name).toList := by
    intro hmem
    simp only [validIntegrationName, Bool.and_eq_true, List.all_eq_true] at h
    exact absurd (h.2 '#' (mem_of_mem_trim hmem)) (by decide)
  constructor
  · rw [contains, decide_eq_false_iff_not]
    intro hin
    exact hmark (hin.subset List.mem_cons_self)
  · intro hlast
    exact hmark (List.mem_of_getLast? hlast)

/-- The name fields of a resolved configuration separate exactly when no display name, once trimmed, holds a
`##` or ends with `#`. -/
theorem form_names_separate_iff {getSecret : String → String → Except Chain String} {parsers : Parsers}
    {file : FileConfig} {config : Config} (hresolve : resolve getSecret parsers file = .ok config) :
    Separates config ↔ ∀ posting ∈ config.postings, ∀ name, posting.displayName = some name → Unmarked (trim name) := by
  constructor
  · intro h posting hposting name hname
    have hunmarked := (serverSplit_formName_iff posting).mp (h.split posting hposting)
    rwa [PostingConfig.publicName, hname, Option.getD_some] at hunmarked
  · intro h
    have hunmarked : ∀ posting ∈ config.postings, Unmarked posting.publicName := by
      intro posting hposting
      rw [PostingConfig.publicName]
      cases hname : posting.displayName with
      | some name => exact h posting hposting name hname
      | none =>
          obtain ⟨integration, hintegration, hof⟩ := (resolution_of_resolve hresolve).postings posting hposting
          rw [Option.getD_none, hof.name]
          exact unmarked_of_valid (valid_names_of_resolve hresolve integration hintegration)
    have hsplit : ∀ posting ∈ config.postings,
        serverSplit posting.formName = some (posting.publicName, posting.tripcodeSecret) := by
      intro posting hposting
      exact (serverSplit_formName_iff posting).mpr (hunmarked posting hposting)
    refine ⟨hsplit, ?_, fun posting hposting => formName_length_le hresolve hposting⟩
    intro posting hposting other hother hne heq
    have hpair := hsplit posting hposting
    rw [heq, hsplit other hother, Option.some.injEq] at hpair
    exact hne hpair.symm

end Config

namespace Sample

def parsersOk : Parsers := ⟨fun _ => .ok (), fun _ => .ok ()⟩

def namedFile : FileConfig where
  ptchan := ⟨"https://ptchan.test"⟩
  runtime := .default
  storage := ⟨"gateway.db", defaultEventRetention⟩
  integrations := [⟨"first", [], none, none, some ⟨some " gw ", "!!abcdefghi="⟩, .default⟩]

theorem form_names_separate_iff_named :
    ∃ config, resolve (fun _ _ => .ok "#secret") parsersOk namedFile = .ok config ∧ Separates config := by
  obtain ⟨config, hresolve, hpostings⟩ : ∃ config, resolve (fun _ _ => .ok "#secret") parsersOk namedFile = .ok config ∧
      config.postings = [⟨"first", [], some " gw ", "#secret", "#secret", "!!abcdefghi=", "#secret"⟩] := ⟨_, rfl, rfl⟩
  refine ⟨config, hresolve, (form_names_separate_iff hresolve).mpr ?_⟩
  intro posting hposting name hname
  rw [hpostings, List.mem_singleton] at hposting
  rw [hposting, Option.some.injEq] at hname
  rw [← hname]
  exact ⟨by decide, by decide⟩

/-- Two postings: one's name ends with `#`, the other's secret begins with it. -/
def hashFile : FileConfig :=
  { namedFile with integrations :=
      [⟨"first", [], none, none, some ⟨some "a#", "!!abcdefghi="⟩, .default⟩,
        ⟨"second", [], none, none, some ⟨some "a", "!!bcdefghij="⟩, .default⟩] }

def hashSecret (env _ : String) : Except Chain String :=
  if env = "PTCHAN_INTEGRATION_FIRST_TRIPCODE" then .ok "b"
  else if env = "PTCHAN_INTEGRATION_SECOND_TRIPCODE" then .ok "#b"
  else .ok "secret"

/-- Both submit `a###b`, which the server takes for the second. -/
theorem form_names_do_not_separate :
    ¬∀ (getSecret : String → String → Except Chain String) (parsers : Parsers) (file : FileConfig) (config : Config),
      resolve getSecret parsers file = .ok config → Separates config := by
  intro hall
  obtain ⟨config, hresolve, hpostings⟩ : ∃ config,
      resolve hashSecret parsersOk hashFile = .ok config ∧
        config.postings = [⟨"first", [], some "a#", "secret", "b", "!!abcdefghi=", "secret"⟩,
          ⟨"second", [], some "a", "secret", "#b", "!!bcdefghij=", "secret"⟩] := ⟨_, rfl, rfl⟩
  have hseparates := hall _ _ _ _ hresolve
  have hfirst := hseparates.split ⟨"first", [], some "a#", "secret", "b", "!!abcdefghi=", "secret"⟩
    (by rw [hpostings]; exact List.mem_cons_self)
  exact absurd hfirst (by decide)

end Sample

end PtchanGateway
