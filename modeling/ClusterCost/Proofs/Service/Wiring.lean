import ClusterCost.Proofs.Service.Availability

/-!
# The wiring of a launched service

The refreshes of a map leave the provider alone, whatever happens to them. So from its launch
on the parts of a service stay wired as they were then (`wired_of_serving`): its provider is
that of the own cluster and is recorded in the metrics, the rate table is built from the
current card, and the map of clusters asks this provider for the identity of the own cluster
and is counted in the metrics.
-/

namespace ClusterCost.Service

open Refresher (Taken)

/-! ### What leaves the provider as it is -/

/-- The provider is the same, and it is recorded in the metrics as it was. -/
structure SameProvider (s after : Service) : Prop where
  provider : after.provider = s.provider
  inMetrics : after.providerInMetrics = s.providerInMetrics

section SameProvider

variable {s after : Service} {horizon : Nat}

lemma SameProvider.refl (s : Service) : SameProvider s s := ⟨rfl, rfl⟩

lemma SameProvider.trans {between : Service} (h : SameProvider s between)
    (h' : SameProvider between after) : SameProvider s after :=
  ⟨h'.provider.trans h.provider, h'.inMetrics.trans h.inMetrics⟩

lemma sameProvider_measure (s : Service) (wanted : Bool) (f : Metrics → Metrics) :
    SameProvider s (s.measure wanted f) :=
  ⟨provider_measure s wanted f, providerInMetrics_measure s wanted f⟩

lemma sameProvider_note (s : Service) (m : ClusterMap) (report : Report) :
    SameProvider s (s.note m report) := by
  have hmeasured := sameProvider_measure (s.record report.event) m.inMetrics (·.note report)
  rw [note]
  split_ifs <;> exact ⟨hmeasured.provider, hmeasured.inMetrics⟩

lemma sameProvider_setMap (s : Service) (ref : MapRef) (m : ClusterMap) :
    SameProvider s (s.setMap ref m) := by
  cases ref <;> exact ⟨rfl, rfl⟩

lemma sameProvider_stepMap (s : Service) (ref : MapRef) (step : Refresher.Step) :
    SameProvider s (s.stepMap ref step) := by
  rw [stepMap]
  split
  · exact .refl s
  · rename_i m hm
    split
    · exact .refl s
    · rename_i refresher reports hstep
      constructor
      · rw [foldl_note (f := provider) fun s m report => (sameProvider_note s m report).provider]
        exact (sameProvider_setMap s ref _).provider
      · rw [foldl_note (f := providerInMetrics) fun s m report =>
          (sameProvider_note s m report).inMetrics]
        exact (sameProvider_setMap s ref _).inMetrics

lemma sameProvider_useOvertime (s : Service) (ref : MapRef) :
    SameProvider s (s.useOvertime ref) := by
  rw [useOvertime]
  split
  · exact .refl s
  · split_ifs
    · exact sameProvider_setMap s ref _
    · exact .refl s

lemma sameProvider_perform (s : Service) (ref : MapRef) (p : Refresher.Pending) :
    SameProvider s (s.perform ref p) := by
  cases p with
  | asks w =>
    rw [perform]
    split
    · exact .refl s
    · rename_i m hm
      have hasked : SameProvider s { s with supply := (s.supply.ask m.query).2 } := ⟨rfl, rfl⟩
      exact hasked.trans (sameProvider_stepMap _ ref _)
  | ticks => exact (sameProvider_useOvertime s ref).trans (sameProvider_stepMap _ ref .tick)
  | _ => exact sameProvider_stepMap s ref _

lemma sameProvider_stepBy? (h : s.stepBy? horizon = some after) : SameProvider s after := by
  obtain ⟨time, ref, p, -, -, rfl⟩ := stepBy?_eq_some h
  have hperformed := sameProvider_perform (s.atTime time) ref p
  exact ⟨hperformed.provider, hperformed.inMetrics⟩

/-- As time passes, the provider stays as it is. -/
lemma sameProvider_advance (s : Service) (milliseconds : Nat) :
    SameProvider s (s.advance milliseconds) := by
  obtain ⟨last, passes, -, heq⟩ := advance_eq s milliseconds
  have hlast : SameProvider s last :=
    passes.keeps (P := fun after => SameProvider s after)
      (fun _ _ h hs => h.trans (sameProvider_stepBy? hs)) (.refl s)
  rw [heq]
  exact ⟨hlast.provider, hlast.inMetrics⟩

lemma sameProvider_placeMap (s : Service) (p : MapPlan) : SameProvider s (s.placeMap p) := by
  have hretired := sameProvider_stepMap s .current .stop
  rw [placeMap]
  split_ifs <;> exact ⟨hretired.provider, hretired.inMetrics⟩

end SameProvider

/-! ### What a change of the card leaves as it is -/

lemma inMetrics_changeCard (s : Service) (edit : RateCard → Except PricingError RateCard)
    (event : Event) : (s.changeCard edit event).2.providerInMetrics = s.providerInMetrics := by
  rw [changeCard]
  split <;> exact providerInMetrics_measure _ _ _

lemma inMetrics_respond (s : Service) (r : Http.Request) :
    (s.respond r).2.providerInMetrics = s.providerInMetrics :=
  respond_keeps (P := fun after => after.providerInMetrics = s.providerInMetrics) s rfl
    (fun edit event _ => inMetrics_changeCard s edit event) r

lemma clusterId_changeCard (s : Service) (edit : RateCard → Except PricingError RateCard)
    (event : Event) : (s.changeCard edit event).2.provider.clusterId = s.provider.clusterId := by
  rw [changeCard, Provider.update]
  generalize s.provider.store.update s.files edit = updated
  obtain ⟨result, store, files⟩ := updated
  cases result with
  | error e => simp only [provider_measure]
  | ok card => simp only [provider_measure, record, Provider.rebuild]

/-! ### From the launch on -/

section Wired

variable {settings : Settings} {files : Files} {declared : Bool} {taken : List Taken}
  {s after : Service}

/-- The parts of the service are wired as they are at the launch. -/
structure Wired (settings : Settings) (s : Service) : Prop where
  inMetrics : s.providerInMetrics = true
  table : s.provider.table = .ofCard s.provider.card
  clusterId : s.provider.clusterId = settings.clusterId
  map : ∃ map, s.map = some map ∧ map.identity = .provider ∧ map.inMetrics = true ∧
    map.refresher.settings.ownId = settings.clusterId

lemma Wired.congr (h : Wired settings s) (same : SameProvider s after) (hmap : after.map = s.map) :
    Wired settings after where
  inMetrics := same.inMetrics.trans h.inMetrics
  table := same.provider ▸ h.table
  clusterId := same.provider ▸ h.clusterId
  map := hmap ▸ h.map

lemma Wired.changeCard (h : Wired settings s) (edit : RateCard → Except PricingError RateCard)
    (event : Event) : Wired settings (s.changeCard edit event).2 where
  inMetrics := (inMetrics_changeCard s edit event).trans h.inMetrics
  table := by
    have hout := changeCard_outcome s h.inMetrics edit event
    generalize s.changeCard edit event = changed at hout ⊢
    obtain ⟨result, after⟩ := changed
    cases hout with
    | committed card _ _ _ hafter => rw [hafter.table, Provider.card, hafter.store]
    | refused e _ _ hafter => exact hafter.provider ▸ h.table
    | notOpened card place error _ _ _ _ hafter => exact hafter.provider ▸ h.table
    | brokenOff card path fault _ _ _ _ _ hafter => exact hafter.provider ▸ h.table
  clusterId := (clusterId_changeCard s edit event).trans h.clusterId
  map := (sameMaps_changeCard s edit event).map ▸ h.map

lemma Wired.respond (h : Wired settings s) (r : Http.Request) : Wired settings (s.respond r).2 := by
  refine respond_keeps s h ?_ r
  intro edit event entry
  exact (h.changeCard edit event).congr ⟨rfl, rfl⟩ rfl

lemma Wired.request (h : Wired settings s) (r : CardRequest) : Wired settings (s.request r).2 := by
  rw [request_eq]
  exact h.changeCard r.edit r.event

lemma Wired.stepMap {map : ClusterMap} {next : Refresher} {reports : List Report}
    {step : Refresher.Step} (h : Wired settings s) (hmap : s.map = some map)
    (hstep : map.refresher.step s.now step = some (next, reports)) :
    Wired settings (s.stepMap .current step) := by
  obtain ⟨map', hmap', hidentity, hmetrics, hown⟩ := h.map
  obtain rfl : map' = map := Option.some.inj (hmap'.symm.trans hmap)
  have same := sameProvider_stepMap s .current step
  refine ⟨same.inMetrics.trans h.inMetrics, same.provider ▸ h.table, same.provider ▸ h.clusterId,
    ?_⟩
  refine ⟨{ map' with refresher := next }, ?_, hidentity, hmetrics, ?_⟩
  · rw [stepMap_eq .current hmap hstep, foldl_note map_note]
    rfl
  · rw [(Refresher.move_of_step hstep).settings_eq]
    exact hown

lemma provider_prepared (settings : Settings) (store : Store) (files : Files) (log : List Event)
    (now : Nat) :
    (Run.prepared settings store files log now).provider =
      ⟨settings.clusterId, store, .ofCard store.card⟩ :=
  provider_measure _ _ _

lemma wired_launch {now : Nat} {r : ClusterCost.Run} (h : Run.launch settings files now = .ok r) :
    Wired settings r.service := by
  obtain ⟨store, opened, log, hservice⟩ := service_of_launch h
  have same := sameProvider_placeMap ((Run.prepared settings store opened log now).record
    (.started settings.clusterId Run.version settings.backendName)) settings.mapPlan
  have hprovider := same.provider.trans (provider_prepared settings store opened log now)
  rw [hservice]
  refine ⟨same.inMetrics.trans (providerInMetrics_measure _ _ _), ?_, ?_, ⟨_, rfl, rfl, rfl, rfl⟩⟩
  · rw [hprovider]
    rfl
  · rw [hprovider]

/-- Whatever a launched service goes through, its parts stay wired. -/
theorem wired_of_serving (serving : Serving settings files declared taken s) :
    Wired settings s := by
  induction serving with
  | launch now h => exact wired_launch h
  | wait later serving h ih => exact ih.congr ⟨rfl, rfl⟩ rfl
  | environment supply others serving ih => exact ih.congr ⟨rfl, rfl⟩ rfl
  | overtime overtime serving hmap ih =>
    obtain ⟨map', hmap', hidentity, hmetrics, hown⟩ := ih.map
    obtain rfl := Option.some.inj (hmap'.symm.trans hmap)
    exact ⟨ih.inMetrics, ih.table, ih.clusterId, ⟨_, rfl, hidentity, hmetrics, hown⟩⟩
  | refresh step serving hmap h ih => exact ih.stepMap hmap h
  | ready serving ih => exact ih.congr ⟨rfl, rfl⟩ rfl
  | request r serving ih => exact ih.respond r
  | update r serving ih => exact ih.request r

end Wired

end ClusterCost.Service
