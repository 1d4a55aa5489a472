import Pyroscope.Discovery.Target
import Mathlib.Data.Nat.Digits

set_option autoImplicit false

/-! # Metastore peers from resolved endpoints (`convertEndpoints`)

Every time Kubernetes reports the endpoints of the metastore service, `convertEndpoints` turns
them into the Raft peer list: for each subset, each address and each port of the subset whose
number, printed in decimal, is the target's port text, one `Server` whose Raft ID and address
are `<pod>.<service>.<namespace>.svc.cluster.local.:<port>` and whose resolved address is
`ip:port`.

The port comparison is textual, so a target port that no decimal rendering equals (a named port
such as `http`, or `08080`) matches nothing; `parseResolverTarget` accepts such ports in the path
forms, and the peer list is then empty for every endpoint set (`convertEndpoints_named_port`).
One server is emitted per matching port entry, so the Raft IDs are distinct when the pod names
are and no subset lists the port number twice, while a pod whose subset lists the number twice
gets two servers with one Raft ID (`raftIds_nodup`). -/

namespace Pyroscope.Discovery

open Pyroscope.Go Pyroscope.Go.Url Pyroscope.Go.Resolver

/-! ## Endpoints and servers -/

/-- `kuberesolver.ObjectReference`; the conversion reads only the pod name. -/
structure ObjectReference where
  name : List Char
  deriving DecidableEq, Repr

/-- `kuberesolver.Address`. -/
structure Address where
  ip : List Char
  targetRef : ObjectReference
  deriving DecidableEq, Repr

/-- `kuberesolver.Port`; the conversion reads only the number (a Go `int`). -/
structure Port where
  port : Int
  deriving DecidableEq, Repr

/-- `kuberesolver.Subset`. -/
structure Subset where
  addresses : List Address
  ports : List Port
  deriving DecidableEq, Repr

/-- `kuberesolver.Endpoints`. -/
structure Endpoints where
  subsets : List Subset
  deriving DecidableEq, Repr

/-- `raft.Server` with the two fields set here (`Suffrage` keeps its zero value, `Voter`). -/
structure RaftServer where
  id : List Char
  address : List Char
  deriving DecidableEq, Repr

/-- `discovery.Server`. -/
structure Server where
  resolvedAddress : List Char
  raft : RaftServer
  deriving DecidableEq, Repr

/-- `strconv.Itoa(n)`, which is also `fmt.Sprintf("%d", n)`: decimal, with a leading `-` when
    negative. -/
def itoa (n : Int) : List Char := (toString n).toList

/-- `net.JoinHostPort`: an address with a `:` is taken for IPv6 and bracketed. -/
def joinHostPort (host port : List Char) : List Char :=
  if ':' ∈ host then '[' :: host ++ "]:".toList ++ port else host ++ ':' :: port

/-- The Raft ID `fmt.Sprintf("%s.%s.%s.svc.cluster.local.:%d", podName, ti.service,
    ti.namespace, port.Port)`. -/
def raftServerId (ti : TargetInfo) (podName : List Char) (port : Int) : List Char :=
  podName ++ '.' :: ti.service ++ '.' :: ti.namespaceName ++ ".svc.cluster.local.:".toList ++
    itoa port

/-- The server one matching `(address, port)` pair contributes. -/
def peer (ti : TargetInfo) (addr : Address) (port : Int) : Server :=
  { resolvedAddress := joinHostPort addr.ip (itoa port),
    raft := ⟨raftServerId ti addr.targetRef.name port, raftServerId ti addr.targetRef.name port⟩ }

/-- `convertEndpoints`: the triple loop over subsets, addresses and ports, appending one server
    for every port whose decimal text is `ti.port`. -/
def convertEndpoints (e : Endpoints) (ti : TargetInfo) : List Server :=
  e.subsets.flatMap fun ep => ep.addresses.flatMap fun addr =>
    ep.ports.filterMap fun port => if itoa port.port ≠ ti.port then none else some (peer ti addr port.port)

/-! ## Which triples are kept -/

/-- A server is in the list exactly when some subset has an address and a port numbered (in
    decimal) as the target's port, and the server is the one that pair yields. -/
theorem mem_convertEndpoints {e : Endpoints} {ti : TargetInfo} {s : Server} :
    s ∈ convertEndpoints e ti ↔ ∃ ep ∈ e.subsets, ∃ addr ∈ ep.addresses, ∃ port ∈ ep.ports,
      itoa port.port = ti.port ∧ s = peer ti addr port.port := by
  simp [convertEndpoints, eq_comm]

/-- The list entry by entry: for each subset and address, the server of each port entry whose
    number renders to the target's port text, in order. -/
theorem convertEndpoints_eq_map (e : Endpoints) (ti : TargetInfo) :
    convertEndpoints e ti = e.subsets.flatMap fun ep => ep.addresses.flatMap fun addr =>
      (ep.ports.filter fun port => itoa port.port = ti.port).map fun port =>
        peer ti addr port.port := by
  simp only [convertEndpoints]
  congr 1; funext ep; congr 1; funext addr
  induction ep.ports with
  | nil => rfl
  | cons q qs ih =>
    by_cases hq : itoa q.port = ti.port
    · simp only [List.filterMap_cons, hq, ne_eq, not_true_eq_false, if_false, ih]
      simp [List.filter_cons, hq]
    · simp only [List.filterMap_cons, hq, ne_eq, not_false_eq_true, if_true, ih]
      simp [List.filter_cons, hq]

/-! ## Port texts that no number renders to -/

theorem isDigit_digitChar {n : Nat} (h : n < 10) : (Nat.digitChar n).isDigit = true := by
  revert n
  decide

theorem mem_toDigitsCore {fuel n : Nat} {ds : List Char} {c : Char}
    (h : c ∈ Nat.toDigitsCore 10 fuel n ds) : c ∈ ds ∨ c.isDigit = true := by
  induction fuel generalizing n ds with
  | zero => exact .inl h
  | succ fuel ih =>
    have hd := isDigit_digitChar (Nat.mod_lt n (by decide : 10 > 0))
    simp only [Nat.toDigitsCore] at h
    split at h
    · rcases List.mem_cons.1 h with rfl | h
      · exact .inr hd
      · exact .inl h
    · rcases ih h with h | h
      · rcases List.mem_cons.1 h with rfl | h
        · exact .inr hd
        · exact .inl h
      · exact .inr h

/-- A decimal rendering holds only digits and `-`. -/
theorem mem_itoa {k : Int} {c : Char} (h : c ∈ itoa k) : c.isDigit = true ∨ c = '-' := by
  cases k with
  | ofNat m => exact .inl ((mem_toDigitsCore h).resolve_left (List.not_mem_nil c))
  | negSucc m =>
    rcases List.mem_cons.1 h with rfl | h
    · exact .inr rfl
    · exact .inl ((mem_toDigitsCore h).resolve_left (List.not_mem_nil c))

/-- A text holding a byte that is neither a digit nor `-` is the rendering of no number. -/
theorem itoa_ne_of_mem {p : List Char} {c : Char} (hc : c ∈ p) (hd : c.isDigit = false)
    (hm : c ≠ '-') (k : Int) : itoa k ≠ p := by
  rintro rfl
  rcases mem_itoa hc with h | h
  · rw [h] at hd
    cases hd
  · exact hm h

/-- When the target's port text is the decimal rendering of no number, no port of any endpoint
    set matches it and the peer list is empty. -/
theorem convertEndpoints_eq_nil {ti : TargetInfo} (h : ∀ k : Int, itoa k ≠ ti.port)
    (e : Endpoints) : convertEndpoints e ti = [] :=
  List.eq_nil_iff_forall_not_mem.2 fun s hs => by
    obtain ⟨_, _, _, _, port, _, hk, _⟩ := mem_convertEndpoints.1 hs
    exact h port.port hk

/-- The target `kubernetes:///svc.ns:http` (a named port in the path form) is accepted by
    `url.Parse` and `parseResolverTarget`, and its port matches no endpoint port. -/
theorem convertEndpoints_named_port :
    parse "kubernetes:///svc.ns:http".toList =
        .ok { scheme := "kubernetes".toList, path := "/svc.ns:http".toList } ∧
      parseResolverTarget ⟨{ scheme := "kubernetes".toList, path := "/svc.ns:http".toList }⟩ =
        .ok ⟨"ns".toList, "svc".toList, "http".toList⟩ ∧
      ∀ e, convertEndpoints e ⟨"ns".toList, "svc".toList, "http".toList⟩ = [] :=
  ⟨rfl, rfl, convertEndpoints_eq_nil (@itoa_ne_of_mem _ 'h' (by decide) rfl (by decide))⟩

/-- The peer list keeps exactly the (subset, address, port) triples whose port number renders
    in decimal to the target's port text; when no number renders to that text, the list is
    empty for every endpoint set. -/
theorem convertEndpoints_port_text (ti : TargetInfo) :
    (∀ e s, s ∈ convertEndpoints e ti ↔ ∃ ep ∈ e.subsets, ∃ addr ∈ ep.addresses,
      ∃ port ∈ ep.ports, itoa port.port = ti.port ∧ s = peer ti addr port.port) ∧
    ((∀ k : Int, itoa k ≠ ti.port) → ∀ e, convertEndpoints e ti = []) :=
  ⟨fun _ _ => mem_convertEndpoints, convertEndpoints_eq_nil⟩

theorem convertEndpoints_port_text_metastore :
    peer ⟨"pyroscope".toList, "metastore".toList, "9095".toList⟩
        ⟨"10.0.0.1".toList, ⟨"metastore-0".toList⟩⟩ 9095 ∈
      convertEndpoints ⟨[⟨[⟨"10.0.0.1".toList, ⟨"metastore-0".toList⟩⟩], [⟨4040⟩, ⟨9095⟩]⟩]⟩
        ⟨"pyroscope".toList, "metastore".toList, "9095".toList⟩ ∧
    (∀ k : Int, itoa k ≠ "http".toList) ∧
      convertEndpoints ⟨[⟨[⟨"10.0.0.1".toList, ⟨"svc-0".toList⟩⟩], [⟨80⟩, ⟨8080⟩]⟩]⟩
        ⟨"ns".toList, "svc".toList, "http".toList⟩ = [] :=
  have hhttp := @itoa_ne_of_mem _ 'h' (by decide) rfl (by decide)
  ⟨((convertEndpoints_port_text _).1 _ _).2 ⟨_, List.mem_singleton_self _, _,
      List.mem_singleton_self _, ⟨9095⟩, by decide, by decide, rfl⟩,
    hhttp, (convertEndpoints_port_text _).2 hhttp _⟩

/-! ## Distinct Raft IDs -/

/-- The pod names of all addresses, subset by subset. -/
def addressNames (e : Endpoints) : List (List Char) :=
  e.subsets.flatMap fun ep => ep.addresses.map fun addr => addr.targetRef.name

/-- The Raft ID of pod `podName` when its port matches the target's port text. -/
def podRaftId (ti : TargetInfo) (podName : List Char) : List Char :=
  podName ++ '.' :: ti.service ++ '.' :: ti.namespaceName ++ ".svc.cluster.local.:".toList ++
    ti.port

/-- Every server is a pod at the target's port: the address's IP joined with the port text,
    and the Raft ID and address `<pod>.<service>.<namespace>.svc.cluster.local.:<port>`. -/
theorem convertEndpoints_subset_pods (e : Endpoints) (ti : TargetInfo) :
    convertEndpoints e ti ⊆ e.subsets.flatMap fun ep => ep.addresses.map fun addr =>
      ⟨joinHostPort addr.ip ti.port,
        ⟨podRaftId ti addr.targetRef.name, podRaftId ti addr.targetRef.name⟩⟩ := by
  intro s hs
  obtain ⟨ep, hep, addr, haddr, port, -, hk, rfl⟩ := mem_convertEndpoints.1 hs
  simp only [List.mem_flatMap, List.mem_map]
  exact ⟨ep, hep, addr, haddr, by simp [peer, raftServerId, podRaftId, hk]⟩

theorem podRaftId_injective (ti : TargetInfo) : Function.Injective (podRaftId ti) :=
  fun a b h => by simpa [podRaftId] using h

/-- The Raft IDs of the list, address by address. -/
theorem raftIds_convertEndpoints (e : Endpoints) (ti : TargetInfo) :
    (convertEndpoints e ti).map (fun s => s.raft.id) =
      e.subsets.flatMap fun ep => ep.addresses.flatMap fun addr =>
        ep.ports.filterMap fun port =>
          if itoa port.port ≠ ti.port then none else some (podRaftId ti addr.targetRef.name) := by
  simp only [convertEndpoints, List.map_flatMap, List.map_filterMap]
  congr 1; funext ep; congr 1; funext addr; congr 1; funext port
  by_cases h : itoa port.port = ti.port <;> simp [h, peer, raftServerId, podRaftId]

/-- A subset listing the target's port number at most once gives each address at most one
    ID. -/
theorem portIds_sublist {ti : TargetInfo} {ports : List Port} (name : List Char)
    (h : (ports.filter fun port => itoa port.port = ti.port).length ≤ 1) :
    (ports.filterMap fun port =>
      if itoa port.port ≠ ti.port then none else some (podRaftId ti name)).Sublist
      [podRaftId ti name] := by
  induction ports with
  | nil => simp
  | cons q qs ih =>
    by_cases hq : itoa q.port = ti.port
    · have hnone : ∀ port ∈ qs, itoa port.port ≠ ti.port := by
        simpa [List.filter_cons, hq, List.filter_eq_nil_iff] using h
      simpa [hq, List.filterMap_eq_nil_iff] using hnone
    · simpa [hq] using ih (by simpa [List.filter_cons, hq] using h)

theorem flatMap_sublist_map {α β : Type} {l : List α} {F : α → List β} {f : α → β}
    (h : ∀ a ∈ l, (F a).Sublist [f a]) : (l.flatMap F).Sublist (l.map f) := by
  induction l with
  | nil => simp
  | cons a l ih =>
    simpa using (h a (List.mem_cons_self a l)).append (ih fun b hb => h b (List.mem_cons_of_mem a hb))

theorem flatMap_sublist_flatMap {α β : Type} {l : List α} {F G : α → List β}
    (h : ∀ a ∈ l, (F a).Sublist (G a)) : (l.flatMap F).Sublist (l.flatMap G) := by
  induction l with
  | nil => simp
  | cons a l ih =>
    simpa using (h a (List.mem_cons_self a l)).append (ih fun b hb => h b (List.mem_cons_of_mem a hb))

/-- Distinct pod names give distinct Raft IDs as long as no subset lists the target's port
    number twice. -/
theorem raftIds_nodup_of_single_port {e : Endpoints} {ti : TargetInfo}
    (hnames : (addressNames e).Nodup)
    (hports : ∀ ep ∈ e.subsets, (ep.ports.filter fun port => itoa port.port = ti.port).length ≤ 1) :
    ((convertEndpoints e ti).map fun s => s.raft.id).Nodup := by
  rw [raftIds_convertEndpoints]
  have hsub := flatMap_sublist_flatMap fun ep hep =>
    @flatMap_sublist_map _ _ ep.addresses _ (fun addr => podRaftId ti addr.targetRef.name)
      fun addr _ => portIds_sublist addr.targetRef.name (hports ep hep)
  refine hsub.nodup ?_
  have h := hnames.map (podRaftId_injective ti)
  simpa [addressNames, List.map_flatMap] using h

theorem sublist_flatMap_of_mem {α β : Type} {l : List α} (f : α → List β) {a : α} (h : a ∈ l) :
    (f a).Sublist (l.flatMap f) :=
  List.sublist_flatten_of_mem (List.mem_map_of_mem f h)

/-- A pod's Raft ID occurs at least as often as its subset lists the target's port number: the
    IDs that one (subset, address) pair contributes are a sublist of the whole list. -/
theorem count_raftIds {e : Endpoints} {ti : TargetInfo} {ep : Subset} (hep : ep ∈ e.subsets)
    {addr : Address} (haddr : addr ∈ ep.addresses) :
    (ep.ports.filter fun port => itoa port.port = ti.port).length ≤
      ((convertEndpoints e ti).map fun s => s.raft.id).count (podRaftId ti addr.targetRef.name) := by
  rw [raftIds_convertEndpoints]
  have hchunk := (sublist_flatMap_of_mem (fun addr => ep.ports.filterMap fun port =>
      if itoa port.port ≠ ti.port then none else some (podRaftId ti addr.targetRef.name)) haddr).trans
    (sublist_flatMap_of_mem (fun ep => ep.addresses.flatMap fun addr => ep.ports.filterMap fun port =>
      if itoa port.port ≠ ti.port then none else some (podRaftId ti addr.targetRef.name)) hep)
  refine le_trans (le_of_eq ?_) (hchunk.count_le (podRaftId ti addr.targetRef.name))
  rw [List.count_filterMap, List.countP_eq_length_filter]
  congr 1
  exact List.filter_congr fun port _ => by by_cases h : itoa port.port = ti.port <;> simp [h]

/-- One server per matching port entry, and distinct Raft IDs as far as that allows: the list
    holds, subset by subset and address by address, the server of each port entry whose number
    renders to the target's port text; its Raft IDs are distinct when the pod names are and no
    subset lists the port number twice; and each pod's Raft ID occurs at least as often as its
    subset lists the port number, so a subset listing it twice gives each of its pods two servers
    with one Raft ID. -/
theorem raftIds_nodup (e : Endpoints) (ti : TargetInfo) :
    convertEndpoints e ti = (e.subsets.flatMap fun ep => ep.addresses.flatMap fun addr =>
      (ep.ports.filter fun port => itoa port.port = ti.port).map fun port =>
        peer ti addr port.port) ∧
    ((addressNames e).Nodup →
      (∀ ep ∈ e.subsets, (ep.ports.filter fun port => itoa port.port = ti.port).length ≤ 1) →
      ((convertEndpoints e ti).map fun s => s.raft.id).Nodup) ∧
    ∀ ep ∈ e.subsets, ∀ addr ∈ ep.addresses,
      (ep.ports.filter fun port => itoa port.port = ti.port).length ≤
        ((convertEndpoints e ti).map fun s => s.raft.id).count (podRaftId ti addr.targetRef.name) :=
  ⟨convertEndpoints_eq_map e ti, raftIds_nodup_of_single_port,
    fun _ hep _ haddr => count_raftIds hep haddr⟩

theorem raftIds_nodup_two_pods :
    let ti : TargetInfo := ⟨"pyroscope".toList, "metastore".toList, "9095".toList⟩
    let pods : Endpoints := ⟨[⟨[⟨"10.0.0.1".toList, ⟨"metastore-0".toList⟩⟩,
      ⟨"10.0.0.2".toList, ⟨"metastore-1".toList⟩⟩], [⟨9095⟩, ⟨4040⟩]⟩]⟩
    let twice : Endpoints := ⟨[⟨[⟨"10.0.0.1".toList, ⟨"metastore-0".toList⟩⟩], [⟨9095⟩, ⟨9095⟩]⟩]⟩
    (convertEndpoints pods ti).length = 2 ∧
      ((convertEndpoints pods ti).map fun s => s.raft.id).Nodup ∧
      2 ≤ ((convertEndpoints twice ti).map fun s => s.raft.id).count
        (podRaftId ti "metastore-0".toList) := by
  intro ti pods twice
  have hcount := (raftIds_nodup twice ti).2.2 _ (List.mem_singleton_self _) _
    (List.mem_singleton_self _)
  exact ⟨by rw [(raftIds_nodup pods ti).1]; decide,
    (raftIds_nodup pods ti).2.1 (by decide) (by decide), le_trans (by decide) hcount⟩

/-- A subset that lists the configured port number twice (once per protocol, say) gives its one
    pod two servers with the same Raft ID. -/
theorem convertEndpoints_duplicate_port :
    (addressNames ⟨[⟨[⟨"10.0.0.1".toList, ⟨"metastore-0".toList⟩⟩], [⟨9095⟩, ⟨9095⟩]⟩]⟩).Nodup ∧
      ¬ ((convertEndpoints ⟨[⟨[⟨"10.0.0.1".toList, ⟨"metastore-0".toList⟩⟩], [⟨9095⟩, ⟨9095⟩]⟩]⟩
        ⟨"pyroscope".toList, "metastore".toList, "9095".toList⟩).map fun s => s.raft.id).Nodup := by
  decide

end Pyroscope.Discovery
