import SeriesQuery.Command.Folder
import SeriesQuery.Command.Run
import SeriesQuery.Proofs.Http.Endpoint

set_option autoImplicit false

/-!
# What checked settings are good for

Settings that were found valid give a service, and only their host and their origins can keep it from
being served: no rule looks at these, but starting reads the host as an address and lists the origins.
So settings can be found valid that starting refuses.
-/

namespace SeriesQuery.Command

open SeriesQuery.Http SeriesQuery.Text

section

variable {invocation : Invocation} {environment : List (String × String)} {files : Files}
  {settings : Settings} {note : String}

/-- A command succeeds only with settings that are loaded and valid. -/
theorem exists_loaded_of_status (succeeded : (perform invocation environment files).status = 0) :
    ∃ settings note, Settings.load invocation.settings environment files = .ok (settings, note) ∧
      settings.fault? = none := by
  rw [perform] at succeeded
  split at succeeded
  · cases succeeded
  · next settings note loaded =>
      refine ⟨settings, note, loaded, ?_⟩
      split at succeeded
      · cases succeeded
      · next valid => exact valid

theorem perform_of_loaded
    (loaded : Settings.load invocation.settings environment files = .ok (settings, note))
    (valid : settings.fault? = none) :
    perform invocation environment files = conclude files invocation settings note := by
  simp only [perform, loaded, valid]

end

/-- Settings are found valid if a service can be served with them, wherever it listens and whatever
fills its store. -/
theorem checked_of_started {path listen fixture unusedListen unusedFixture : Option String}
    {environment : List (String × String)} {files : Files}
    (started : (perform ⟨.start, path, listen, fixture⟩ environment files).status = 0) :
    (perform ⟨.checkSettings, path, unusedListen, unusedFixture⟩ environment files).status = 0 := by
  obtain ⟨settings, note, loaded, valid⟩ := exists_loaded_of_status started
  have performed : perform ⟨.checkSettings, path, unusedListen, unusedFixture⟩ environment files = _ :=
    perform_of_loaded loaded valid
  rw [performed, conclude]

theorem prepare_empty (settings : Settings) (files : Files) :
    ∃ service, Service.start settings (.ok ()) = .ok service ∧
      prepare settings files none none =
        match hostAddress? settings.server.host.toList with
        | some address =>
          if canList settings.server.origins
          then .ok ⟨service, .empty, ⟨address, settings.server.port⟩⟩ else .error .everyOriginListed
        | none => .error (.badEndpoint settings.listenAddress) := by
  refine ⟨_, rfl, ?_⟩
  have endpoint : Endpoint.ofText? settings.listenAddress = _ :=
    Endpoint.ofText?_port settings.server.host settings.server.port
  simp only [prepare, fillStore, Service.start, Engine.start, Except.mapError, Option.getD_none,
    endpoint]
  cases hostAddress? settings.server.host.toList with
  | some address => rfl
  | none => rfl

/-- Settings that were found valid give a service. Where no option says otherwise, it can be served
exactly if their host is an address and the mark of all origins is not listed as one of them; if one of
these fails, starting ends with that complaint, the one about the host first. -/
theorem start_of_checked {checking starting : List String} {path listen fixture : Option String}
    {environment : List (String × String)} {files : Files}
    (checks : read checking = .ok ⟨.checkSettings, path, listen, fixture⟩)
    (starts : read starting = .ok ⟨.start, path, none, none⟩)
    (passed : (run checking environment files).status = 0) :
    ∃ settings note service,
      Settings.load path environment files = .ok (settings, note) ∧
      Service.start settings (.ok ()) = .ok service ∧
      (HostForm settings.server.host.toList → everyOrigin ∉ settings.server.origins →
        ∃ address, run starting environment files =
          ⟨0, [], [note], some ⟨service, .empty, ⟨address, settings.server.port⟩⟩⟩) ∧
      (HostForm settings.server.host.toList → everyOrigin ∈ settings.server.origins →
        run starting environment files = .failing [note] .everyOriginListed) ∧
      (¬ HostForm settings.server.host.toList →
        run starting environment files = .failing [note] (.badEndpoint settings.listenAddress)) := by
  simp only [run, checks] at passed
  simp only [run, starts]
  obtain ⟨settings, note, loaded, valid⟩ := exists_loaded_of_status passed
  obtain ⟨service, isService, prepared⟩ := prepare_empty settings files
  have ended : perform ⟨.start, path, none, none⟩ environment files = _ :=
    perform_of_loaded loaded valid
  simp only [conclude, prepared] at ended
  refine ⟨settings, note, service, loaded, isService, ?_, ?_, ?_⟩
  · intro form unlisted
    obtain ⟨address, isAddress⟩ := exists_hostAddress?_iff.mpr form
    have canList := canList_iff.mpr unlisted
    exact ⟨address, by simp only [ended, isAddress, canList, ↓reduceIte]⟩
  · intro form listed
    obtain ⟨address, isAddress⟩ := exists_hostAddress?_iff.mpr form
    have notList := mt canList_iff.mp (not_not_intro listed)
    simp only [ended, isAddress, if_neg notList]
  · intro noForm
    cases isAddress : hostAddress? settings.server.host.toList with
    | some address => exact absurd (exists_hostAddress?_iff.mp ⟨address, isAddress⟩) noForm
    | none => simp only [ended, isAddress]

theorem start_of_checked_loopback :
    let environment := [(Settings.hostVariable, "[::1]")]
    let files : Files := fun _ => .error .notFound
    read ["check-config"] = .ok ⟨.checkSettings, none, none, none⟩ ∧
      read [] = .ok ⟨.start, none, none, none⟩ ∧
      (run ["check-config"] environment files).status = 0 ∧
      ∃ service address, run [] environment files =
        ⟨0, [], ["[config] Using default configuration"], some ⟨service, .empty, ⟨address, 8080⟩⟩⟩ := by
  intro environment files
  have checks : read ["check-config"] = .ok ⟨.checkSettings, none, none, none⟩ := by decide +kernel
  have starts : read [] = .ok ⟨.start, none, none, none⟩ := by decide +kernel
  have passed : (run ["check-config"] environment files).status = 0 := by decide +kernel
  obtain ⟨settings, note, service, loaded, _, served, _⟩ := start_of_checked checks starts passed
  have standard : Settings.load none environment files =
      .ok (Settings.standard.override environment, "[config] Using default configuration") := rfl
  rw [standard] at loaded
  cases loaded
  have loopback : hostAddress? "[::1]".toList = some (.six [0, 0, 0, 0, 0, 0, 0, 1] 0) := by decide
  have unlisted : everyOrigin ∉ (Settings.standard.override environment).server.origins := by decide
  obtain ⟨address, ready⟩ := served (exists_hostAddress?_iff.mp ⟨_, loopback⟩) unlisted
  exact ⟨checks, starts, passed, service, address, ready⟩

/-- An address of version 6 without brackets is found valid, and starting refuses it. -/
theorem checked_not_started :
    let files := (Folder.ofFiles [("metrics-query.toml", "[server]\nhost = \"::1\"\n")]).read
    read ["check-config"] = .ok ⟨.checkSettings, none, none, none⟩ ∧
      read ["start"] = .ok ⟨.start, none, none, none⟩ ∧
      (run ["check-config"] [] files).status = 0 ∧
      (run ["start"] [] files).status = 1 ∧
      (run ["start"] [] files).notes = ["[config] Loaded configuration from metrics-query.toml",
        (Failure.badEndpoint "::1:8080").line] := by
  decide +kernel

-- No rule looks at the origins either.
example :
    let files := (Folder.ofFiles
      [("metrics-query.toml", "[server]\ncors_allowed_origins = [\"*\"]\n")]).read
    (run ["check-config"] [] files).status = 0 ∧ (run ["start"] [] files).status = 101 := by
  decide +kernel

end SeriesQuery.Command
