import ClusterCost.Proofs.Health.Calls
import ClusterCost.Proofs.Service.Requests

/-!
# The two probes

Liveness and readiness are asked for by two routes. A service that answers 200 to the probe of
readiness does so to that of liveness too, and once it has been declared ready the two probes answer
with one status (`probes_of_run`).
-/

namespace ClusterCost

/-- A request that asks for what is under a path, with its body or without. -/
structure Http.Request.Asks (r : Http.Request) (path : String) : Prop where
  method : r.method = "GET" ∨ r.method = "HEAD"
  path : r.path = path

namespace Service

/-! ### The statuses of the probes -/

section Statuses

variable (s : Service) {r : Http.Request}

lemma status_respond_read {path : String} {route : Http.Route} (h : r.Asks path)
    (hroute : Http.Route.ofPath? path = some route) :
    (s.respond r).1.status = (s.read route).status := by
  rw [← h.path] at hroute
  rcases h.method with hmethod | hmethod
  · rw [respond_read s hmethod hroute]
  · simp [respond, hroute, hmethod, Http.Route.allows, Http.Response.withoutBody]

lemma status_readiness (h : r.Asks "/readyz") :
    (s.respond r).1.status = if s.health.readiness.ready then 200 else 503 := by
  rw [@status_respond_read s r _ .readiness h (by decide)]
  rfl

lemma status_liveness (h : r.Asks "/healthz") :
    (s.respond r).1.status = if s.health.liveness.status = .unhealthy then 503 else 200 := by
  rw [@status_respond_read s r _ .liveness h (by decide), read]
  cases s.health.liveness.status <;> rfl

end Statuses

/-! ### One story -/

/-- What the health tells after calls: the status is the worst of the reports that stand,
readiness follows it, and a service that is not ready although it was declared so names the
components that are the reason. -/
structure Tells (calls : List Health.Call) (h : Health) : Prop where
  overall : Health.IsOverall (Health.lastReport calls) h.liveness.status
  ready : h.readiness.ready = true ↔ Health.lastReady calls = true ∧ h.liveness.status ≠ .unhealthy
  reason : Health.lastReady calls = true → h.readiness.ready = false →
    ∃ names, Health.ListsUnhealthy calls names ∧
    h.readiness.reason = some ("Unhealthy components: " ++ String.intercalate ", " names)

/-- After any calls liveness and readiness tell one story, in which only the order of reports on the
same component counts. So a service that is ready is live, and if it has been declared ready, both
probes answer with the same status. -/
theorem probes_of_run (calls : List Health.Call) :
    Tells calls (Health.run calls) ∧
    (∀ other, (∀ name, Health.reportsOn other name = Health.reportsOn calls name) →
      (Health.run other).liveness.status = (Health.run calls).liveness.status) ∧
    ∀ (s : Service) (ready live : Http.Request), s.health = Health.run calls →
      ready.Asks "/readyz" → live.Asks "/healthz" →
      ((s.respond ready).1.status = 200 ↔ (Health.run calls).readiness.ready = true) ∧
      ((s.respond live).1.status = 200 ↔ (Health.run calls).liveness.status ≠ .unhealthy) ∧
      ((s.respond ready).1.status = 200 → (s.respond live).1.status = 200) ∧
      (Health.lastReady calls = true → (s.respond ready).1.status = (s.respond live).1.status) := by
  have hiff := @Health.ready_run_iff calls
  refine ⟨⟨Health.isOverall_run calls, hiff, Health.reason_run⟩, fun other hother => ?_, ?_⟩
  · refine Health.IsOverall.unique (Health.isOverall_run other) ?_
    rw [Health.lastReport_congr hother]
    exact Health.isOverall_run calls
  · intro s ready live hs hready hlive
    rw [status_readiness s hready, status_liveness s hlive, hs]
    by_cases hstatus : (Health.run calls).liveness.status = .unhealthy
    · simp [hiff, hstatus]
    · simp [hiff, hstatus]

/-- Two components are unhealthy, and a third one no longer is. -/
theorem probes_of_run_unhealthy :
    let calls : List Health.Call :=
      [.setReady true, .setUnhealthy 1 "b" "gone", .setUnhealthy 1 "c" "late",
       .setUnhealthy 2 "a" "", .register 3 "c"]
    let other : List Health.Call :=
      [.setUnhealthy 1 "c" "late", .setUnhealthy 2 "a" "", .register 3 "c", .setReady true,
       .setUnhealthy 1 "b" "gone"]
    let s : Service :=
      { clusterId := "one", files := .empty "/", provider := ⟨"one", .inMemory .default, .empty⟩,
        health := Health.run calls }
    (Health.run other).liveness.status = (Health.run calls).liveness.status ∧
    (∃ names, Health.ListsUnhealthy calls names ∧ "b" ∈ names ∧ "c" ∉ names ∧
      (Health.run calls).readiness.reason =
        some ("Unhealthy components: " ++ String.intercalate ", " names)) ∧
    (s.respond ⟨"GET", "/readyz", []⟩).1.status =
      (s.respond ⟨"HEAD", "/healthz?full", []⟩).1.status := by
  intro calls other s
  have hb : Health.lastReport calls "b" = some ⟨.unhealthy, some "gone", 1⟩ := by decide
  have hc : Health.lastReport calls "c" = some ⟨.healthy, none, 3⟩ := by decide
  obtain ⟨tells, hother, hprobes⟩ := probes_of_run calls
  refine ⟨hother other fun name => ?_, ?_, ?_⟩
  · obtain ⟨rest, hcalls, hmoved⟩ :
        ∃ rest, Health.reports calls = ("b", ⟨.unhealthy, some "gone", 1⟩) :: rest ∧
        Health.reports other = rest ++ [("b", ⟨.unhealthy, some "gone", 1⟩)] := ⟨_, rfl, rfl⟩
    by_cases hname : "b" = name
    · subst hname
      rfl
    · simp [Health.reportsOn, hcalls, hmoved, hname]
  · have hunhealthy := tells.overall.eq_unhealthy_iff.mpr ⟨"b", _, hb, rfl⟩
    have hnot : (Health.run calls).readiness.ready = false :=
      Bool.eq_false_iff.mpr fun h => (tells.ready.mp h).2 hunhealthy
    obtain ⟨names, hnames, hreason⟩ := tells.reason rfl hnot
    exact ⟨names, hnames, by simp [hnames.mem_iff, hb], by simp [hnames.mem_iff, hc], hreason⟩
  · exact (hprobes s _ _ rfl ⟨.inl rfl, by decide⟩ ⟨.inr rfl, by decide⟩).2.2.2 rfl

end Service

end ClusterCost
