import Pyroscope.Discovery.Endpoints

set_option autoImplicit false

/-! # The discovery's publish protocol (`Subscribe`, `resolved`, `Close`)

`KubeDiscovery` keeps the last converted peer list and at most one subscriber, both under
`updLock`. Three calls take the lock, so every run is a sequence of these steps:

* `Subscribe(u)` makes `u` the subscriber and hands it the current list at once;
* `resolved(e)` (called by the Kubernetes watch) replaces the list by `convertEndpoints e ti`
  and hands the new list to the subscriber, if there is one;
* `Close()` drops the subscriber.

A run is modelled as the sequence of these events from the state `NewKubeResolverDiscovery`
builds; its output is the sequence of `Updates.Servers` calls, each a subscriber and a list.
`subscription_deliveries` says what one subscription receives: the list current at `Subscribe`,
then the converted list of each `resolved` until the next `Subscribe` or `Close`. -/

namespace Pyroscope.Discovery

open Pyroscope.Go Pyroscope.Go.Url Pyroscope.Go.Resolver

variable {σ : Type}

/-! ## State, events and steps -/

/-- The fields of `KubeDiscovery` the protocol reads: the parsed target, the last peer list and
    the subscriber (`nil` is `none`). `σ` is the type of Go `Updates` values. -/
structure KubeDiscovery (σ : Type) where
  ti : TargetInfo
  servers : List Server
  upd : Option σ

/-- The calls that take `updLock`. -/
inductive Event (σ : Type)
  | subscribe (u : σ)
  | resolved (e : Endpoints)
  | close

/-- The endpoints a `resolved` call carries. -/
def Event.endpoints? : Event σ → Option Endpoints
  | .resolved e => some e
  | _ => none

/-- The errors of `NewKubeResolverDiscovery`. -/
inductive NewError
  | url (e : UrlError)
  | target (e : TargetError)
  /-- The error `kuberesolver.Build` returned. -/
  | build (msg : String)

/-- `NewKubeResolverDiscovery`: `url.Parse`, `parseResolverTarget`, then `kuberesolver.Build`,
    whose outcome (`build ti`, an error or none) comes from the Kubernetes client. The new value
    has no peers and no subscriber. -/
def newKubeResolverDiscovery (build : TargetInfo → Option String) (target : List Char) :
    Except NewError (KubeDiscovery σ) :=
  match parse target with
  | .error e => .error (.url e)
  | .ok u =>
    match parseResolverTarget ⟨u⟩ with
    | .error e => .error (.target e)
    | .ok ti =>
      match build ti with
      | some msg => .error (.build msg)
      | none => .ok { ti, servers := [], upd := none }

/-- The state `NewKubeResolverDiscovery` returns: no peers yet and no subscriber. -/
def KubeDiscovery.init (ti : TargetInfo) : KubeDiscovery σ := ⟨ti, [], none⟩

@[simp] theorem KubeDiscovery.init_ti (ti : TargetInfo) : (init ti : KubeDiscovery σ).ti = ti := rfl

/-- A discovery that `NewKubeResolverDiscovery` returns starts from `init` of the target it
    parsed. -/
theorem newKubeResolverDiscovery_eq_init {build : TargetInfo → Option String} {target : List Char}
    {g : KubeDiscovery σ} (h : newKubeResolverDiscovery build target = .ok g) :
    ∃ u, parse target = .ok u ∧ parseResolverTarget ⟨u⟩ = .ok g.ti ∧ build g.ti = none ∧
      g = KubeDiscovery.init g.ti := by
  unfold newKubeResolverDiscovery at h
  split at h
  · cases h
  · next u hu =>
    split at h
    · cases h
    · next ti hti =>
      split at h
      · cases h
      · next hb =>
        cases h
        exact ⟨u, hu, hti, hb, rfl⟩

/-- One call under `updLock`: the new state and the `Updates.Servers` calls it makes. -/
def KubeDiscovery.step (g : KubeDiscovery σ) : Event σ → KubeDiscovery σ × List (σ × List Server)
  | .subscribe u => ({ g with upd := some u }, [(u, g.servers)])
  | .resolved e =>
    ({ g with servers := convertEndpoints e g.ti },
      match g.upd with
      | some u => [(u, convertEndpoints e g.ti)]
      | none => [])
  | .close => ({ g with upd := none }, [])

/-- A run: the final state and every `Updates.Servers` call, in order. -/
def KubeDiscovery.run (g : KubeDiscovery σ) : List (Event σ) → KubeDiscovery σ × List (σ × List Server)
  | [] => (g, [])
  | ev :: evs => (((g.step ev).1.run evs).1, (g.step ev).2 ++ ((g.step ev).1.run evs).2)

@[simp] theorem KubeDiscovery.step_ti (g : KubeDiscovery σ) (ev : Event σ) :
    (g.step ev).1.ti = g.ti := by
  cases ev <;> rfl

@[simp] theorem KubeDiscovery.run_ti (g : KubeDiscovery σ) (evs : List (Event σ)) :
    (g.run evs).1.ti = g.ti := by
  induction evs generalizing g with
  | nil => rfl
  | cons ev evs ih => simp [run, ih]

theorem KubeDiscovery.run_append (g : KubeDiscovery σ) (xs ys : List (Event σ)) :
    g.run (xs ++ ys) = (((g.run xs).1.run ys).1, (g.run xs).2 ++ ((g.run xs).1.run ys).2) := by
  induction xs generalizing g with
  | nil => rfl
  | cons ev xs ih => simp [run, ih]

/-! ## What a run delivers -/

/-- The peer list after `evs` from the start: the conversion of the last endpoints resolved,
    or nil when none was. -/
def lastServers (ti : TargetInfo) (evs : List (Event σ)) : List Server :=
  match (evs.filterMap Event.endpoints?).getLast? with
  | some e => convertEndpoints e ti
  | none => []

/-- The list a run leaves is the conversion of its last endpoints, or the list it started
    with. -/
theorem KubeDiscovery.run_servers (g : KubeDiscovery σ) (evs : List (Event σ)) :
    (g.run evs).1.servers =
      ((evs.filterMap Event.endpoints?).getLast?.map fun e => convertEndpoints e g.ti).getD
        g.servers := by
  induction evs generalizing g with
  | nil => rfl
  | cons ev evs ih =>
    cases ev with
    | resolved e =>
      cases h : (evs.filterMap Event.endpoints?).getLast? <;>
        simp [run, step, ih, Event.endpoints?, List.getLast?_cons, h]
    | subscribe u => simp [run, step, ih, Event.endpoints?]
    | close => simp [run, step, ih, Event.endpoints?]

/-- `resolved` calls alone keep the subscriber and hand it each converted list. -/
theorem KubeDiscovery.run_resolved (g : KubeDiscovery σ) (es : List Endpoints) :
    (g.run (es.map .resolved)).1.upd = g.upd ∧
      (g.run (es.map .resolved)).2 =
        match g.upd with
        | some u => es.map fun e => (u, convertEndpoints e g.ti)
        | none => [] := by
  induction es generalizing g with
  | nil => cases h : g.upd <;> simp [run, h]
  | cons e es ih =>
    obtain ⟨hupd, hout⟩ := ih (g.step (.resolved e)).1
    cases h : g.upd <;> simp_all [run, step]

/-- Every list handed out during a run is made of the servers the run started with and the
    conversions of the endpoints it resolved. -/
theorem KubeDiscovery.run_delivered_subset (g : KubeDiscovery σ) (evs : List (Event σ)) :
    (g.run evs).2.flatMap Prod.snd ⊆
      g.servers ++ (evs.filterMap Event.endpoints?).flatMap fun e => convertEndpoints e g.ti := by
  induction evs generalizing g with
  | nil => simp [run]
  | cons ev evs ih =>
    have := ih (g.step ev).1
    cases ev with
    | subscribe u => simpa [run, step, Event.endpoints?, List.append_subset] using this
    | resolved e =>
      cases h : g.upd <;> simp [run, step, Event.endpoints?, List.append_subset, h] at this ⊢ <;>
        exact this.trans (List.subset_append_right _ _)
    | close => simpa [run, step, Event.endpoints?, List.append_subset] using this

/-- The discovery invents no peer: every server a subscriber is ever handed was made by
    `convertEndpoints` from endpoints that a `resolved` call carried. -/
theorem run_delivers_resolved (ti : TargetInfo) (evs : List (Event σ)) :
    ((KubeDiscovery.init ti : KubeDiscovery σ).run evs).2.flatMap Prod.snd ⊆
      (evs.filterMap Event.endpoints?).flatMap fun e => convertEndpoints e ti := by
  simpa [KubeDiscovery.init] using (KubeDiscovery.init ti : KubeDiscovery σ).run_delivered_subset evs

/-- A run leaves `u` registered exactly when it ends with `Subscribe(u)` followed only by
    `resolved` calls, or when it holds only `resolved` calls and `u` was registered before. -/
theorem KubeDiscovery.run_upd_eq_some (g : KubeDiscovery σ) (evs : List (Event σ)) (u : σ) :
    (g.run evs).1.upd = some u ↔
      (∃ (pre : List (Event σ)) (es : List Endpoints), evs = pre ++ .subscribe u :: es.map .resolved) ∨
        (g.upd = some u ∧ ∃ es : List Endpoints, evs = es.map .resolved) := by
  constructor
  · induction evs generalizing g with
    | nil => exact fun h => .inr ⟨h, [], rfl⟩
    | cons ev evs ih =>
      intro h
      rcases ih (g.step ev).1 h with ⟨pre, es, rfl⟩ | ⟨hu, es, rfl⟩
      · exact .inl ⟨ev :: pre, es, rfl⟩
      · cases ev with
        | subscribe v => exact .inl ⟨[], es, by simpa [step] using hu⟩
        | resolved e => exact .inr ⟨by simpa [step] using hu, e :: es, rfl⟩
        | close => simp [step] at hu
  · rintro (⟨pre, es, rfl⟩ | ⟨hu, es, rfl⟩)
    · rw [run_append]
      exact ((((g.run pre).1.step (.subscribe u)).1).run_resolved es).1
    · rw [(g.run_resolved es).1, hu]

/-- Which subscriber is registered: from the state `NewKubeResolverDiscovery` returns, `u` is
    the subscriber exactly when the calls so far end with `Subscribe(u)` followed only by
    `resolved` calls; after a `Close`, or before any `Subscribe`, there is none. -/
theorem registered_subscriber (ti : TargetInfo) (evs : List (Event σ)) (u : σ) :
    ((KubeDiscovery.init ti : KubeDiscovery σ).run evs).1.upd = some u ↔
      ∃ (pre : List (Event σ)) (es : List Endpoints),
        evs = pre ++ .subscribe u :: es.map .resolved := by
  simp [KubeDiscovery.run_upd_eq_some, KubeDiscovery.init]

/-- The invariant of `Subscribe` and `resolved`: a registered subscriber was the last one
    handed a list, and that list is the current one. -/
def Registered (g : KubeDiscovery σ) (log : List (σ × List Server)) : Prop :=
  ∀ u, g.upd = some u → log.getLast? = some (u, g.servers)

/-- Every call re-establishes the invariant on its own: `Subscribe` and `resolved` hand the
    current list to the subscriber, and `Close` leaves none. -/
theorem KubeDiscovery.step_registered (g : KubeDiscovery σ) (log : List (σ × List Server))
    (ev : Event σ) : Registered (g.step ev).1 (log ++ (g.step ev).2) := by
  intro u hu
  cases ev with
  | subscribe v => simp_all [step]
  | resolved e => cases hg : g.upd <;> simp_all [step]
  | close => simp [step] at hu

theorem KubeDiscovery.run_registered {g : KubeDiscovery σ} {log : List (σ × List Server)}
    (h : Registered g log) (evs : List (Event σ)) :
    Registered (g.run evs).1 (log ++ (g.run evs).2) := by
  induction evs generalizing g log with
  | nil => simpa [run] using h
  | cons ev evs ih => simpa [run] using ih (g.step_registered log ev)

/-- The publish protocol, segment by segment, from the state `NewKubeResolverDiscovery`
    returns. A subscription receives the list current at its `Subscribe`, then the converted
    list of each `resolved` until the next `Subscribe` or `Close`; after a `Close`, and before
    the first `Subscribe`, nothing is delivered; and a registered subscriber's last list is the
    current one. -/
theorem subscription_deliveries (ti : TargetInfo) (pre : List (Event σ)) (es : List Endpoints) :
    (∀ u, ((KubeDiscovery.init ti : KubeDiscovery σ).run (pre ++ .subscribe u :: es.map .resolved)).2 =
      ((KubeDiscovery.init ti : KubeDiscovery σ).run pre).2 ++
        (u, lastServers ti pre) :: es.map fun e => (u, convertEndpoints e ti)) ∧
    ((KubeDiscovery.init ti : KubeDiscovery σ).run (pre ++ .close :: es.map .resolved)).2 =
      ((KubeDiscovery.init ti : KubeDiscovery σ).run pre).2 ∧
    ((KubeDiscovery.init ti : KubeDiscovery σ).run (es.map .resolved)).2 = [] ∧
    (∀ u, ((KubeDiscovery.init ti : KubeDiscovery σ).run pre).1.upd = some u →
      ((KubeDiscovery.init ti : KubeDiscovery σ).run pre).2.getLast? =
        some (u, ((KubeDiscovery.init ti : KubeDiscovery σ).run pre).1.servers)) := by
  have hservers : ((KubeDiscovery.init ti : KubeDiscovery σ).run pre).1.servers = lastServers ti pre := by
    rw [KubeDiscovery.run_servers]
    unfold lastServers
    cases (pre.filterMap Event.endpoints?).getLast? <;> rfl
  refine ⟨fun u => ?_, ?_, ?_, fun u hu => ?_⟩
  · have := ((((KubeDiscovery.init ti).run pre).1.step (.subscribe u)).1).run_resolved es
    simp_all [KubeDiscovery.run_append, KubeDiscovery.run, KubeDiscovery.step]
  · have := ((((KubeDiscovery.init ti).run pre).1.step (.close)).1).run_resolved es
    simp_all [KubeDiscovery.run_append, KubeDiscovery.run, KubeDiscovery.step]
  · simpa [KubeDiscovery.init] using ((KubeDiscovery.init ti : KubeDiscovery σ).run_resolved es).2
  · simpa using @KubeDiscovery.run_registered σ (KubeDiscovery.init ti) []
      (fun _ h => by simp [KubeDiscovery.init] at h) pre u hu

theorem subscription_deliveries_metastore :
    let ti : TargetInfo := ⟨"pyroscope".toList, "metastore".toList, "9095".toList⟩
    let e₁ : Endpoints := ⟨[⟨[⟨"10.0.0.1".toList, ⟨"metastore-0".toList⟩⟩], [⟨9095⟩]⟩]⟩
    let e₂ : Endpoints := ⟨[⟨[⟨"10.0.0.1".toList, ⟨"metastore-0".toList⟩⟩,
      ⟨"10.0.0.2".toList, ⟨"metastore-1".toList⟩⟩], [⟨9095⟩]⟩]⟩
    let g : KubeDiscovery Nat := KubeDiscovery.init ti
    (g.run [.resolved e₁, .subscribe 1, .resolved e₂]).2 =
        [(1, convertEndpoints e₁ ti), (1, convertEndpoints e₂ ti)] ∧
      (g.run [.resolved e₁, .close, .resolved e₂]).2 = [] ∧
      (g.run [.resolved e₁, .resolved e₂]).2 = [] ∧
      (g.run [.resolved e₁, .subscribe 1, .resolved e₂]).2.getLast? =
        some (1, (g.run [.resolved e₁, .subscribe 1, .resolved e₂]).1.servers) ∧
      (convertEndpoints e₁ ti).length = 1 ∧ (convertEndpoints e₂ ti).length = 2 := by
  intro ti e₁ e₂ g
  have h := @subscription_deliveries Nat ti [.resolved e₁] [e₂]
  exact ⟨(h.1 1).trans rfl, h.2.1.trans rfl, (@subscription_deliveries Nat ti [] [e₁, e₂]).2.2.1,
    (@subscription_deliveries Nat ti [.resolved e₁, .subscribe 1, .resolved e₂] []).2.2.2 1 rfl,
    by decide, by decide⟩

end Pyroscope.Discovery
