import ClusterCost.Proofs.Cluster.Integrity
import ClusterCost.Proofs.Health
import ClusterCost.Proofs.Service.Passage
import ClusterCost.Proofs.Service.Requests
import ClusterCost.Service.Run

/-!
# A service whose backend fails

From its launch on a service goes through refreshes with any outcomes, requests and updates of its
rate card (`Serving`), and so does the service of every run that has started (`serving_of_start`).
Once it has been declared ready it stays in rotation all the time: it is degraded while the latest
refresh to finish has failed, and that is the worst that can become of it (`available_of_serving`).
-/

namespace ClusterCost

/-! ### Health after a step of the refresher -/

namespace Refresher

/-- Whether the refresh that the step has finished failed in all attempts, if the step
has finished one. -/
def Taken.failed? (t : Taken) : Option Bool :=
  if t.gaveUp then some true else t.response?.map fun _ => false

/-- Whether the latest refresh to finish has failed in all attempts. -/
def lastFailed (taken : List Taken) : Bool := (taken.findSome? Taken.failed?).getD false

lemma lastFailed_cons (t : Taken) (taken : List Taken) :
    lastFailed (t :: taken) = t.failed?.getD (lastFailed taken) := by
  rw [lastFailed, List.findSome?_cons]
  cases t.failed? <;> rfl

section Notes

variable {h : Health} {stale : Bool} {now : Int}

lemma shows_quiet (shows : h.Shows stale) {reports : List Report}
    (hquiet : ∀ r ∈ reports, quiet r = true) :
    (reports.foldl (fun h r => h.note now r) h).Shows stale := by
  induction reports generalizing h with
  | nil => exact shows
  | cons r rest ih =>
    have hnote : h.note now r = h := by
      have hr := hquiet r List.mem_cons_self
      cases r with
      | refreshed elapsed clusters => cases hr
      | failed elapsed attempts e => cases hr
      | _ => rfl
    rw [List.foldl_cons, hnote]
    exact ih shows fun r' hr => hquiet r' (List.mem_cons_of_mem _ hr)

lemma shows_load (shows : h.Shows stale) (m : Refresher) (elapsed : Nat) (rows : List Series)
    (identity : Dictionary String) :
    ((m.load elapsed rows identity).2.foldl (fun h r => h.note now r) h).Shows false := by
  rw [load, List.foldl_append]
  refine (shows_quiet shows ?_).setHealthy now
  intro r hr
  rcases List.mem_append.mp hr with hr | hr
  · obtain ⟨e, -, rfl⟩ := List.mem_map.mp hr
    rfl
  · obtain ⟨e, -, rfl⟩ := List.mem_map.mp hr
    rfl

/-- A step that finishes a refresh says how it went, and no other step changes how the
components are. -/
lemma shows_move (shows : h.Shows stale) {m after : Refresher} {time : Nat} {step : Step}
    {reports : List Report} (move : Move m time step after reports) :
    (reports.foldl (fun h r => h.note now r) h).Shows
      ((Taken.failed? ⟨time, m, step⟩).getD stale) := by
  cases move with
  | responded w job rows identity hjob hasking => exact shows_load shows m _ rows identity
  | gaveUp w job e identity hjob hasking hlast =>
    have hgaveUp : Taken.gaveUp ⟨time, m, .answer w (.error e) identity⟩ = true := by
      simp [Taken.gaveUp, hjob, hlast]
    rw [Taken.failed?, hgaveUp]
    exact shows.setDegraded now _
  | again w job e identity hjob hasking hmore =>
    have hgaveUp : Taken.gaveUp ⟨time, m, .answer w (.error e) identity⟩ = false := by
      simp [Taken.gaveUp, hjob, Nat.not_le.mpr hmore]
    rw [Taken.failed?, hgaveUp]
    exact shows
  | _ => exact shows

end Notes

end Refresher

namespace Service

open Refresher (Taken lastFailed)

/-! ### What leaves health and maps as they are -/

/-- Health and maps are the same. -/
structure SameMaps (s after : Service) : Prop where
  health : after.health = s.health
  map : after.map = s.map
  retired : after.retired = s.retired

lemma SameMaps.refl (s : Service) : SameMaps s s := ⟨rfl, rfl, rfl⟩

lemma sameMaps_measure (s : Service) (wanted : Bool) (f : Metrics → Metrics) :
    SameMaps s (s.measure wanted f) := by
  rw [measure]
  split_ifs
  · exact ⟨rfl, rfl, rfl⟩
  · exact .refl s

lemma sameMaps_changeCard (s : Service) (edit : RateCard → Except PricingError RateCard)
    (event : Event) : SameMaps s (s.changeCard edit event).2 := by
  rw [changeCard]
  split
  · rename_i e provider files h
    have hsame := sameMaps_measure { s with provider, files } s.providerInMetrics (·.updated false)
    exact ⟨hsame.health, hsame.map, hsame.retired⟩
  · rename_i card provider files h
    have hsame := sameMaps_measure ({ s with provider, files }.record event) s.providerInMetrics
      fun m => (m.updated true).rebuilt
    exact ⟨hsame.health, hsame.map, hsame.retired⟩

lemma sameMaps_request (s : Service) (r : CardRequest) : SameMaps s (s.request r).2 := by
  rw [request_eq]
  exact sameMaps_changeCard s _ _

lemma sameMaps_respond (s : Service) (r : Http.Request) : SameMaps s (s.respond r).2 := by
  refine respond_keeps s (.refl s) ?_ r
  intro edit event entry
  have hsame := sameMaps_changeCard s edit event
  exact ⟨hsame.health, hsame.map, hsame.retired⟩

/-! ### From the launch on -/

/-- The states of a service that has been launched, with whether it has been declared ready and the
steps that its map has taken, the newest first. Refreshes may have any outcome at any time, overlap
and be stopped; the backend and the files may change as they like. -/
inductive Serving (settings : Settings) (files : Files) :
    (declared : Bool) → List Taken → Service → Prop
  | launch {r : ClusterCost.Run} (now : Nat) (h : Run.launch settings files now = .ok r) :
      Serving settings files false [] r.service
  | wait {declared : Bool} {taken : List Taken} {s : Service} (later : Nat)
      (serving : Serving settings files declared taken s)
      (h : s.now ≤ later) : Serving settings files declared taken { s with now := later }
  | environment {declared : Bool} {taken : List Taken} {s : Service} (supply : Supply)
      (others : Files)
      (serving : Serving settings files declared taken s) :
      Serving settings files declared taken { s with supply, files := others }
  | overtime {declared : Bool} {taken : List Taken} {s : Service} {map : ClusterMap}
      (overtime : Nat)
      (serving : Serving settings files declared taken s) (hmap : s.map = some map) :
      Serving settings files declared taken { s with map := some { map with overtime } }
  | refresh {declared : Bool} {taken : List Taken} {s : Service} {map : ClusterMap}
      {after : Refresher} {reports : List Report}
      (step : Refresher.Step) (serving : Serving settings files declared taken s)
      (hmap : s.map = some map)
      (h : map.refresher.step s.now step = some (after, reports)) :
      Serving settings files declared (⟨s.now, map.refresher, step⟩ :: taken)
        (s.stepMap .current step)
  | ready {declared : Bool} {taken : List Taken} {s : Service}
      (serving : Serving settings files declared taken s) :
      Serving settings files true taken { s with health := s.health.setReady true }
  | request {declared : Bool} {taken : List Taken} {s : Service} (r : Http.Request)
      (serving : Serving settings files declared taken s) :
      Serving settings files declared taken (s.respond r).2
  | update {declared : Bool} {taken : List Taken} {s : Service} (r : CardRequest)
      (serving : Serving settings files declared taken s) :
      Serving settings files declared taken (s.request r).2

section Reports

variable {settings : Settings} {files : Files} {declared : Bool} {taken : List Taken}
  {s after : Service}

/-- The service shows how the latest refresh went, its one map goes on to report to it, and it stays
ready once it has been declared so. -/
structure Reports (declared : Bool) (taken : List Taken) (s : Service) : Prop where
  shows : s.health.Shows (lastFailed taken)
  ready : declared = true → s.health.ready = true
  map : ∃ map, s.map = some map ∧ map.inHealth = true
  alone : s.retired = []

lemma Reports.congr (h : Reports declared taken s) (same : SameMaps s after) :
    Reports declared taken after where
  shows := same.health ▸ h.shows
  ready := same.health ▸ h.ready
  map := same.map ▸ h.map
  alone := same.retired ▸ h.alone

/-- At the launch pricing and the backend are healthy. -/
lemma healthy_prepared (settings : Settings) (store : Store) (files : Files) (log : List Event)
    (now : Nat) :
    ∀ entry ∈ (Run.prepared settings store files log now).health.components.entries,
      entry.2.status = .healthy := by
  intro entry hentry
  rw [Run.prepared, rebuild, (sameMaps_measure _ _ _).health] at hentry
  simp only [Health.setHealthy, Health.report, Dictionary.mem_entries_insert] at hentry
  rcases hentry with rfl | ⟨rfl | ⟨hnone, -⟩, -⟩
  · rfl
  · rfl
  · cases hnone

lemma map_prepared (settings : Settings) (store : Store) (files : Files) (log : List Event)
    (now : Nat) :
    (Run.prepared settings store files log now).map = none ∧
    (Run.prepared settings store files log now).retired = [] := by
  rw [Run.prepared, rebuild]
  exact ⟨(sameMaps_measure _ _ _).map, (sameMaps_measure _ _ _).retired⟩

/-- A map that reports to the health joins healthy components. -/
lemma reports_placeMap {p : MapPlan}
    (hhealthy : ∀ entry ∈ s.health.components.entries, entry.2.status = .healthy)
    (hmap : s.map = none) (hretired : s.retired = []) (hreports : p.inHealth = true) :
    Reports false [] (s.placeMap p) := by
  have hretire : s.retire.health = s.health ∧ s.retire.retired = [] := by
    rw [retire, stepMap, map?, hmap]
    exact ⟨rfl, by simp [hmap, hretired]⟩
  obtain ⟨hhealth, halone⟩ := hretire
  refine ⟨?_, fun h => absurd h Bool.false_ne_true, ⟨_, rfl, hreports⟩, ?_⟩
  · rw [placeMap]
    simp only [hreports, if_true]
    refine Health.shows_of_healthy ?_ _
    split_ifs <;> exact hhealth ▸ hhealthy
  · rw [placeMap]
    split_ifs <;> exact halone

/-- What has been launched is a service that makes its map of clusters over the opened store. -/
lemma service_of_launch {now : Nat} {r : ClusterCost.Run}
    (h : Run.launch settings files now = .ok r) :
    ∃ store opened log, r.service =
      ((Run.prepared settings store opened log now).record
        (.started settings.clusterId Run.version settings.backendName)).placeMap
        settings.mapPlan := by
  rw [Run.launch] at h
  cases hstore : (Run.openStore settings files).mapError StartError.rateCard with
  | error e =>
    rw [hstore] at h
    cases h
  | ok opened =>
    obtain ⟨store, opened, log⟩ := opened
    cases hendpoint : (Endpoint.ofText settings.endpoint settings.backend).mapError
      StartError.backend with
    | error e =>
      rw [hstore, hendpoint] at h
      cases h
    | ok endpoint =>
      rw [hstore, hendpoint] at h
      cases h
      exact ⟨store, opened, log, rfl⟩

lemma reports_launch {now : Nat} {r : ClusterCost.Run} (h : Run.launch settings files now = .ok r) :
    Reports false [] r.service := by
  obtain ⟨store, opened, log, hservice⟩ := service_of_launch h
  obtain ⟨hmap, hretired⟩ := map_prepared settings store opened log now
  rw [hservice]
  exact reports_placeMap (healthy_prepared settings store opened log now) hmap hretired rfl

lemma health_notes (s : Service) {m : ClusterMap} (hm : m.inHealth = true) (reports : List Report) :
    (reports.foldl (fun s report => s.note m report) s).health =
      reports.foldl (fun h r => h.note s.seconds r) s.health := by
  induction reports generalizing s with
  | nil => rfl
  | cons report rest ih =>
    have hhealth : (s.note m report).health = s.health.note s.seconds report := by
      have hsame := sameMaps_measure (s.record report.event) m.inMetrics (·.note report)
      have hnow : ((s.record report.event).measure m.inMetrics (·.note report)).seconds =
          s.seconds := by
        rw [measure]
        split_ifs <;> rfl
      rw [note, if_pos hm]
      show Health.note _ _ report = _
      rw [hsame.health, hnow]
      rfl
    have hseconds : (s.note m report).seconds = s.seconds := by rw [seconds, seconds, now_note]
    rw [List.foldl_cons, List.foldl_cons, ih, hhealth, hseconds]

lemma ready_notes (h : Health) (now : Int) (reports : List Report) :
    (reports.foldl (fun h r => h.note now r) h).ready = h.ready := by
  induction reports generalizing h with
  | nil => rfl
  | cons report rest ih =>
    rw [List.foldl_cons, ih]
    cases report <;> rfl

lemma Reports.stepMap {map : ClusterMap} {next : Refresher} {reports : List Report}
    {step : Refresher.Step} (h : Reports declared taken s) (hmap : s.map = some map)
    (hstep : map.refresher.step s.now step = some (next, reports)) :
    Reports declared (⟨s.now, map.refresher, step⟩ :: taken) (s.stepMap .current step) := by
  obtain ⟨map', hmap', hreports⟩ := h.map
  obtain rfl : map' = map := Option.some.inj (hmap'.symm.trans hmap)
  have hhealth := health_notes (s.setMap .current { map' with refresher := next })
    (m := { map' with refresher := next }) hreports reports
  rw [stepMap_eq .current hmap hstep]
  constructor
  · rw [hhealth, Refresher.lastFailed_cons]
    exact Refresher.shows_move h.shows (Refresher.move_of_step hstep)
  · rw [hhealth, ready_notes]
    exact h.ready
  · refine ⟨{ map' with refresher := next }, ?_, hreports⟩
    rw [foldl_note map_note]
    rfl
  · rw [foldl_note retired_note]
    exact h.alone

lemma reports_of_serving (serving : Serving settings files declared taken s) :
    Reports declared taken s := by
  induction serving with
  | launch now h => exact reports_launch h
  | wait later serving h ih => exact ⟨ih.shows, ih.ready, ih.map, ih.alone⟩
  | environment supply others serving ih => exact ⟨ih.shows, ih.ready, ih.map, ih.alone⟩
  | overtime overtime serving hmap ih =>
    obtain ⟨map', hmap', hreports⟩ := ih.map
    obtain rfl := Option.some.inj (hmap'.symm.trans hmap)
    exact ⟨ih.shows, ih.ready, ⟨_, rfl, hreports⟩, ih.alone⟩
  | refresh step serving hmap h ih => exact ih.stepMap hmap h
  | ready serving ih => exact ⟨ih.shows.setReady true, fun _ => rfl, ih.map, ih.alone⟩
  | request r serving ih => exact ih.congr (sameMaps_respond _ r)
  | update r serving ih => exact ih.congr (sameMaps_request _ r)

end Reports

/-! ### The program's own states -/

section Program

variable {settings : Settings} {files : Files} {declared : Bool} {taken : List Taken}
  {s after : Service} {horizon : Nat}

lemma Serving.stepMap (serving : Serving settings files declared taken s) (step : Refresher.Step) :
    ∃ taken', Serving settings files declared taken' (s.stepMap .current step) := by
  obtain ⟨map, hmap, -⟩ := (reports_of_serving serving).map
  cases hstep : map.refresher.step s.now step with
  | none =>
    rw [stepMap_eq_self .current hmap hstep]
    exact ⟨taken, serving⟩
  | some result => exact ⟨_, serving.refresh step hmap hstep⟩

lemma Serving.perform (serving : Serving settings files declared taken s) (p : Refresher.Pending) :
    ∃ taken', Serving settings files declared taken' (s.perform .current p) := by
  cases p with
  | asks w =>
    rw [Service.perform]
    split
    · exact ⟨taken, serving⟩
    · exact (serving.environment _ s.files).stepMap _
  | ticks =>
    rw [Service.perform, useOvertime, map?]
    split
    · exact serving.stepMap .tick
    · rename_i map hmap
      split_ifs
      · exact (serving.overtime _ hmap).stepMap .tick
      · exact serving.stepMap .tick
  | _ => exact serving.stepMap _

/-- What happens by itself happens to the one map that there is. -/
lemma Serving.stepBy? (serving : Serving settings files declared taken s)
    (hs : s.stepBy? horizon = some after) :
    ∃ taken', Serving settings files declared taken' after := by
  obtain ⟨time, ref, p, hfirst, -, rfl⟩ := stepBy?_eq_some hs
  obtain ⟨-, map, hmap, -⟩ := mem_pending.mp (first?_eq_some hfirst).1
  have waited := serving.wait (max s.now time) (Nat.le_max_left s.now time)
  cases ref with
  | current => exact waited.perform p
  | retired index =>
    rw [map?, (reports_of_serving serving).alone] at hmap
    cases hmap

lemma Serving.passes (serving : Serving settings files declared taken s)
    (passes : Passes horizon s after) : ∃ taken', Serving settings files declared taken' after := by
  apply passes.keeps (P := fun s => ∃ taken', Serving settings files declared taken' s) ?_
    ⟨taken, serving⟩
  rintro s next ⟨taken', serving'⟩ hs
  exact serving'.stepBy? hs

lemma Serving.run (serving : Serving settings files declared taken s) (horizon : Nat)
    (done : Service → Bool) :
    ∃ taken', Serving settings files declared taken' (s.run horizon done) :=
  serving.passes (passes_run s horizon done).1

lemma Serving.awaitMap (serving : Serving settings files declared taken s) :
    ∃ taken', Serving settings files declared taken' s.awaitMap := by
  obtain ⟨taken', loaded⟩ := serving.run s.patience (!·.isLoading)
  exact loaded.run _ _

lemma Serving.advance (serving : Serving settings files declared taken s) (milliseconds : Nat) :
    ∃ taken', Serving settings files declared taken' (s.advance milliseconds) := by
  obtain ⟨last, passes, -, heq⟩ := advance_eq s milliseconds
  obtain ⟨taken', serving'⟩ := serving.passes passes
  rw [heq]
  exact ⟨taken', serving'.wait _ (passes.now_le (Nat.le_add_right _ _))⟩

lemma Serving.serve {r : ClusterCost.Run}
    (serving : Serving settings files declared taken r.service) (requests : List Http.Request) :
    Serving settings files declared taken (r.serve requests).2.service := by
  induction requests generalizing r with
  | nil => exact serving
  | cons request rest ih =>
    have served := serving.request request
    rw [Run.serve]
    -- how the request is answered does not matter, and unfolding it is slow
    generalize r.service.respond request = answered at served ⊢
    exact @ih { r with service := answered.2 } served

/-- A run that has been launched waits for its first load and is ready then. -/
lemma start_of_launch {r : ClusterCost.Run} (h : Run.launch settings files 0 = .ok r)
    (answer : Option Answer) :
    ∃ supply, Run.start settings files answer =
      .ok (Run.ready { r with service := { r.service with supply }.awaitMap }) := by
  rw [Run.start, h]
  exact ⟨_, rfl⟩

/-- A run at the default endpoint is launched if its store can be opened. -/
lemma launch_of_openStore {settings : Settings} {files opened : Files} {store : Store}
    {log : List Event}
    (now : Nat) (hstore : Run.openStore settings files = .ok (store, opened, log))
    (hendpoint : settings.endpoint = (Settings.default .empty).endpoint)
    (hbackend : settings.backend = .direct) :
    ∃ endpoint, Run.launch settings files now =
      .ok ⟨((Run.prepared settings store opened log now).record
        (.started settings.clusterId Run.version settings.backendName)).placeMap settings.mapPlan,
        endpoint⟩ := by
  have hparsed : (Endpoint.ofText (Settings.default .empty).endpoint .direct).toOption.isSome =
      true := by
    decide +kernel
  cases hread : Endpoint.ofText (Settings.default .empty).endpoint .direct with
  | error e =>
    rw [hread] at hparsed
    cases hparsed
  | ok endpoint =>
    refine ⟨endpoint, ?_⟩
    simp only [Run.launch, hstore, hendpoint, hbackend, hread]
    rfl

/-- A run at the default endpoint and without a file of the rate card is launched. -/
lemma launch_default (settings : Settings) (files : Files) (now : Nat)
    (hcard : settings.cardPath = none)
    (hendpoint : settings.endpoint = (Settings.default .empty).endpoint)
    (hbackend : settings.backend = .direct) :
    ∃ endpoint, Run.launch settings files now =
      .ok ⟨((Run.prepared settings (.inMemory .default) files [] now).record
        (.started settings.clusterId Run.version settings.backendName)).placeMap settings.mapPlan,
        endpoint⟩ :=
  launch_of_openStore now (by simp only [Run.openStore, hcard]) hendpoint hbackend

lemma serving_default (settings : Settings) (files : Files) (now : Nat)
    (hcard : settings.cardPath = none)
    (hendpoint : settings.endpoint = (Settings.default .empty).endpoint)
    (hbackend : settings.backend = .direct) :
    Serving settings files false []
      (((Run.prepared settings (.inMemory .default) files [] now).record
        (.started settings.clusterId Run.version settings.backendName)).placeMap
        settings.mapPlan) := by
  obtain ⟨endpoint, hlaunch⟩ := launch_default settings files now hcard hendpoint hbackend
  exact .launch now hlaunch

lemma serving_of_start {answer : Option Answer} {r : ClusterCost.Run}
    (h : Run.start settings files answer = .ok r) :
    ∃ taken, Serving settings files true taken r.service := by
  cases hlaunch : Run.launch settings files 0 with
  | error e =>
    rw [Run.start, hlaunch] at h
    cases h
  | ok launched =>
    obtain ⟨supply, hstart⟩ := start_of_launch hlaunch answer
    obtain rfl := Except.ok.inj (h.symm.trans hstart)
    obtain ⟨taken, loaded⟩ :=
      ((Serving.launch 0 hlaunch).environment supply launched.service.files).awaitMap
    exact ⟨taken, loaded.ready⟩

end Program

/-! ### The probes -/

section Probes

variable {settings : Settings} {files : Files} {taken : List Taken} {s : Service}

/-- The service answers its probes, and its status says whether the latest refresh has failed. -/
structure Available (taken : List Taken) (s : Service) : Prop where
  ready : ∀ r : Http.Request, r.method = "GET" → r.path = "/readyz" →
    (s.respond r).1 = .json 200 (.object [("ready", .bool true)])
  live : ∀ r : Http.Request, r.method = "GET" → r.path = "/healthz" →
    (s.respond r).1 = .json 200 s.health.liveness.toJson
  status : s.health.liveness.status = if lastFailed taken then .degraded else .healthy
  components : ∀ entry ∈ s.health.liveness.components.entries, entry.2.status ≠ .unhealthy

lemma available (serving : Serving settings files true taken s) : Available taken s := by
  have reports := reports_of_serving serving
  refine ⟨?_, ?_, reports.shows.liveness, reports.shows.operational⟩
  · intro r hmethod hpath
    have hroute : Http.Route.ofPath? r.path = some .readiness := by
      rw [hpath]
      decide
    rw [respond_read s hmethod hroute, read, reports.shows.readiness (reports.ready rfl)]
    rfl
  · intro r hmethod hpath
    have hroute : Http.Route.ofPath? r.path = some .liveness := by
      rw [hpath]
      decide
    have hoperational : s.health.liveness.status.isOperational = true := by
      rw [reports.shows.liveness]
      cases lastFailed taken <;> rfl
    rw [respond_read s hmethod hroute, read]
    simp only [hoperational, if_true]

/-- A service that has been declared ready stays in rotation, whatever its backend does: it
is degraded if and only if the latest refresh to finish has failed in all attempts, and
healthy otherwise. A run that has started is such a service, whatever requests it answers and
however much time passes. -/
theorem available_of_serving :
    (∀ {settings files taken s}, Serving settings files true taken s → Available taken s) ∧
    ∀ {settings files answer r}, Run.start settings files answer = .ok r → ∀ requests milliseconds,
      ∃ taken,
        Serving settings files true taken ((r.serve requests).2.service.advance milliseconds) := by
  refine ⟨available, ?_⟩
  intro settings files answer r h requests milliseconds
  obtain ⟨taken, serving⟩ := serving_of_start h
  exact (serving.serve requests).advance milliseconds

/-- The backend does not answer the query of the first load, and the service is ready
all the same. -/
theorem available_of_serving_outage :
    let settings : Settings := { Settings.default .empty with attempts := 1 }
    (∃ taken s, Serving settings (.empty "/") true taken s ∧ Available taken s ∧
       s.health.liveness.status = .degraded) ∧
    ∃ r taken, Run.start settings (.empty "/") none = .ok r ∧
      Serving settings (.empty "/") true taken ((r.serve []).2.service.advance 1000) := by
  intro settings
  refine ⟨?_, ?_⟩
  · have launched := serving_default settings (.empty "/") 0 rfl rfl rfl
    have failed := launched.refresh (.answer .loop (.error .transport) .empty) rfl rfl
    have available := available_of_serving.1 failed.ready
    exact ⟨_, _, failed.ready, available, available.status⟩
  · obtain ⟨endpoint, hlaunch⟩ := launch_default settings (.empty "/") 0 rfl rfl rfl
    obtain ⟨supply, hstart⟩ := start_of_launch hlaunch none
    obtain ⟨taken, serving⟩ := available_of_serving.2 hstart [] 1000
    exact ⟨_, taken, hstart, serving⟩

end Probes

end Service

end ClusterCost
