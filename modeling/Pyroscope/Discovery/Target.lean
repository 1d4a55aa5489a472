import Pyroscope.Go.Url

set_option autoImplicit false

/-! # The metastore's discovery target (`parseResolverTarget`)

`NewKubeResolverDiscovery` turns a dial target such as `kubernetes:///metastore.pyroscope:9095`
into the `targetInfo` (namespace, service, port) it watches. `parseResolverTarget` picks one of
three documented forms from the parsed URL:

* `kubernetes:///service.namespace:port` – no host, everything in the endpoint;
* `kubernetes://namespace/service:port` – the namespace is the host, which has no port;
* `kubernetes://service.namespace:port` – everything in the host.

In each form `splitServicePortNamespace` cuts the port off at the last `:` and takes the service
and the namespace from the first two `.`-separated parts, so a fully qualified name such as
`service.namespace.svc.cluster.local` is read the same way.

The main result, `parseResolverTarget_forms`, says that each documented form of a DNS service, a
DNS namespace, an optional domain suffix and a decimal port parses, through `url.Parse`, to
exactly that service, namespace and port. -/

namespace Pyroscope.Discovery

open Pyroscope.Go Pyroscope.Go.Url Pyroscope.Go.Resolver

/-- `targetInfo`. Go's field `namespace` is `namespaceName` (a Lean keyword otherwise). -/
structure TargetInfo where
  namespaceName : List Char
  service : List Char
  port : List Char
  deriving DecidableEq, Repr

/-- The errors of `parseResolverTarget`, each `fmt.Errorf("target %s must specify a ...",
    &target.URL)` over the whole URL. -/
inductive TargetError
  /-- "target %s must specify a service" -/
  | mustSpecifyService (url : URL)
  /-- "target %s must specify a namespace" -/
  | mustSpecifyNamespace (url : URL)
  /-- "target %s must specify a port" -/
  | mustSpecifyPort (url : URL)
  deriving DecidableEq, Repr

/-- `splitServicePortNamespace`: returns `(service, port, namespace)`. -/
def splitServicePortNamespace (hpn : List Char) : List Char × List Char × List Char :=
  let (service, port) := match lastIndexByte ':' hpn with
    | some colon => (hpn.take colon, hpn.drop (colon + 1))
    | none => (hpn, [])
  match splitN '.' 3 service with
  | s :: n :: _ => (s, port, n)
  | _ => (service, port, [])

/-- The three-way branch that opens `parseResolverTarget`: the service, port and namespace it
    reads off each form of the target. -/
def targetParts (target : Target) : List Char × List Char × List Char :=
  if target.url.host.isEmpty then splitServicePortNamespace target.endpoint
  else if target.url.port.isEmpty && !target.endpoint.isEmpty then
    ((splitServicePortNamespace target.endpoint).1,
      (splitServicePortNamespace target.endpoint).2.1, target.url.hostname)
  else splitServicePortNamespace target.url.host

/-- `parseResolverTarget`: the parts of the target's form, then the three checks. -/
def parseResolverTarget (target : Target) : Except TargetError TargetInfo :=
  let (service, port, namespaceName) := targetParts target
  if service.isEmpty then .error (.mustSpecifyService target.url)
  else if namespaceName.isEmpty then .error (.mustSpecifyNamespace target.url)
  else if port.isEmpty then .error (.mustSpecifyPort target.url)
  else .ok { service, namespaceName, port }

/-- The three checks: an accepted target has a service, a namespace and a port, and each
    rejection names the missing part and carries the target's whole URL. -/
theorem parseResolverTarget_result (t : Target) :
    (∀ ti, parseResolverTarget t = .ok ti →
      ti.service ≠ [] ∧ ti.namespaceName ≠ [] ∧ ti.port ≠ []) ∧
    ∀ e, parseResolverTarget t = .error e →
      e = .mustSpecifyService t.url ∨ e = .mustSpecifyNamespace t.url ∨
        e = .mustSpecifyPort t.url := by
  unfold parseResolverTarget
  split
  refine ⟨fun ti h => ?_, fun e h => ?_⟩ <;> split_ifs at h <;> cases h <;> simp_all

/-! ## Splitting `service.namespace:port` -/

/-- With a port after the last `:`, the service and namespace come from the text before it. -/
theorem splitServicePortNamespace_append {hp port : List Char} (h : ':' ∉ port) :
    splitServicePortNamespace (hp ++ ':' :: port) =
      match splitN '.' 3 hp with
      | s :: n :: _ => (s, port, n)
      | _ => (hp, port, []) := by
  simp [splitServicePortNamespace, lastIndexByte_append_cons hp h]

/-- `service.namespace[.suffix]` splits into its first two labels. -/
theorem splitN_three_labels {s n x : List Char} (hs : '.' ∉ s) (hn : '.' ∉ n)
    (hx : x = [] ∨ x.head? = some '.') :
    ∃ rest, splitN '.' 3 (s ++ '.' :: (n ++ x)) = s :: n :: rest := by
  rw [splitN_append_cons 1 _ hs]
  rcases hx with rfl | hx
  · exact ⟨[], by simp [splitN_of_not_mem 1 hn]⟩
  · obtain ⟨r, rfl⟩ : ∃ r, x = '.' :: r := by
      cases x with
      | nil => simp at hx
      | cons c r => simp only [List.head?_cons, Option.some.injEq] at hx; exact ⟨r, hx ▸ rfl⟩
    exact ⟨[r], by rw [splitN_append_cons 0 r hn]; rfl⟩

/-- The whole `service.namespace[.suffix]:port` text. -/
theorem splitServicePortNamespace_labels {s n x p : List Char} (hs : '.' ∉ s) (hn : '.' ∉ n)
    (hx : x = [] ∨ x.head? = some '.') (hp : ':' ∉ p) :
    splitServicePortNamespace (s ++ '.' :: (n ++ (x ++ ':' :: p))) = (s, p, n) := by
  obtain ⟨rest, hr⟩ := splitN_three_labels hs hn hx
  have h := @splitServicePortNamespace_append (s ++ '.' :: (n ++ x)) p hp
  simp only [hr] at h
  simpa using h

/-- `service:port`, with no namespace. -/
theorem splitServicePortNamespace_service {s p : List Char} (hs : '.' ∉ s) (hp : ':' ∉ p) :
    splitServicePortNamespace (s ++ ':' :: p) = (s, p, []) := by
  simp [splitServicePortNamespace_append hp, splitN_of_not_mem 2 hs]

/-- The two shapes `splitServicePortNamespace` can see: no `:` (and so no port), or a last `:`
    with either no `.` before it (no namespace) or the first two `.`-separated labels before it
    taken as service and namespace. -/
theorem splitServicePortNamespace_cases (src : List Char) :
    (':' ∉ src ∧ (splitServicePortNamespace src).2.1 = []) ∨
    ∃ hp p, ':' ∉ p ∧ src = hp ++ ':' :: p ∧
      (('.' ∉ hp ∧ splitServicePortNamespace src = (hp, p, [])) ∨
       ∃ s n x, '.' ∉ s ∧ '.' ∉ n ∧ (x = [] ∨ x.head? = some '.') ∧
         hp = s ++ '.' :: (n ++ x) ∧ splitServicePortNamespace src = (s, p, n)) := by
  by_cases hc : ':' ∈ src
  · obtain ⟨hp, p, hp', rfl⟩ := exists_split_last hc
    refine .inr ⟨hp, p, hp', rfl, ?_⟩
    by_cases hd : '.' ∈ hp
    · obtain ⟨s, r, hs, rfl⟩ := exists_split_first hd
      by_cases hd' : '.' ∈ r
      · obtain ⟨n, x, hn, rfl⟩ := exists_split_first hd'
        exact .inr ⟨s, n, '.' :: x, hs, hn, .inr rfl, rfl,
          by simpa using @splitServicePortNamespace_labels s n ('.' :: x) p hs hn (.inr rfl) hp'⟩
      · exact .inr ⟨s, r, [], hs, hd', .inl rfl, by simp,
          by simpa using @splitServicePortNamespace_labels s r [] p hs hd' (.inl rfl) hp'⟩
    · exact .inl ⟨hd, splitServicePortNamespace_service hd hp'⟩
  · refine .inl ⟨hc, ?_⟩
    unfold splitServicePortNamespace
    simp only [lastIndexByte_of_not_mem hc]
    split <;> rfl

/-- `src` is `service.namespace[.suffix]:port` for the parts of `ti`, each free of the separator
    that ends it. -/
def IsServiceNamespacePort (src : List Char) (ti : TargetInfo) : Prop :=
  '.' ∉ ti.service ∧ '.' ∉ ti.namespaceName ∧ ':' ∉ ti.port ∧
    ∃ x, (x = [] ∨ x.head? = some '.') ∧
      src = ti.service ++ '.' :: (ti.namespaceName ++ (x ++ ':' :: ti.port))

/-- `src` is `service[.anything]:port` for the service and port of `ti`. -/
def IsServicePort (src : List Char) (ti : TargetInfo) : Prop :=
  '.' ∉ ti.service ∧ ':' ∉ ti.port ∧
    ∃ x, (x = [] ∨ x.head? = some '.') ∧ src = ti.service ++ (x ++ ':' :: ti.port)

theorem splitServicePortNamespace_eq_iff {src : List Char} {ti : TargetInfo}
    (hn : ti.namespaceName ≠ []) (hp : ti.port ≠ []) :
    splitServicePortNamespace src = (ti.service, ti.port, ti.namespaceName) ↔
      IsServiceNamespacePort src ti := by
  constructor
  · intro h
    rcases splitServicePortNamespace_cases src with
      ⟨-, h1⟩ | ⟨hp', p, hpc, rfl, ⟨-, h2⟩ | ⟨s, n, x, hs, hn', hx, rfl, h2⟩⟩
    · simp [h] at h1; exact absurd h1 hp
    · rw [h2] at h; simp at h; exact absurd h.2.2 hn
    · rw [h2] at h
      simp only [Prod.mk.injEq] at h
      obtain ⟨rfl, rfl, rfl⟩ := h
      exact ⟨hs, hn', hpc, x, hx, by simp⟩
  · rintro ⟨hs, hn', hpc, x, hx, rfl⟩
    exact splitServicePortNamespace_labels hs hn' hx hpc

theorem splitServicePortNamespace_service_port_iff {src : List Char} {ti : TargetInfo}
    (hp : ti.port ≠ []) :
    ((splitServicePortNamespace src).1 = ti.service ∧
      (splitServicePortNamespace src).2.1 = ti.port) ↔ IsServicePort src ti := by
  constructor
  · rintro ⟨h1, h2⟩
    rcases splitServicePortNamespace_cases src with
      ⟨-, h⟩ | ⟨hp', p, hpc, rfl, ⟨hd, h⟩ | ⟨s, n, x, hs, hn', hx, rfl, h⟩⟩
    · exact absurd (h2.symm.trans h) hp
    · rw [h] at h1 h2
      subst h1 h2
      exact ⟨hd, hpc, [], .inl rfl, by simp⟩
    · rw [h] at h1 h2
      subst h1 h2
      exact ⟨hs, hpc, '.' :: (n ++ x), .inr rfl, by simp⟩
  · rintro ⟨hs, hpc, x, hx | hx, rfl⟩
    · simp [hx, splitServicePortNamespace_service hs hpc]
    · obtain ⟨x', rfl⟩ : ∃ x', x = '.' :: x' := by
        cases x with
        | nil => simp at hx
        | cons c r => simp only [List.head?_cons, Option.some.injEq] at hx; exact ⟨r, hx ▸ rfl⟩
      have := @splitServicePortNamespace_append (ti.service ++ '.' :: x') ti.port hpc
      rw [splitN_append_cons 1 x' hs] at this
      cases hr : splitN '.' 2 x' with
      | nil => exact absurd hr (splitN_succ_ne_nil '.' 1 x')
      | cons n rest => simp_all

/-! ## The three documented forms -/

/-- A DNS label: non-empty, of ASCII letters, digits and `-`. -/
def IsDnsLabel (s : List Char) : Prop := s ≠ [] ∧ ∀ c ∈ s, c.isAlphanum ∨ c = '-'

/-- The tail of a fully qualified service name: empty, or a `.` followed by labels and dots
    (such as `.svc.cluster.local`). -/
def IsDomainSuffix (x : List Char) : Prop :=
  x = [] ∨ (x.head? = some '.' ∧ ∀ c ∈ x, c.isAlphanum ∨ c = '-' ∨ c = '.')

/-- A non-empty decimal port. -/
def IsDecimal (p : List Char) : Prop := p ≠ [] ∧ ∀ c ∈ p, c.isDigit

instance (s : List Char) : Decidable (IsDnsLabel s) := inferInstanceAs (Decidable (_ ∧ _))
instance (x : List Char) : Decidable (IsDomainSuffix x) := inferInstanceAs (Decidable (_ ∨ _))
instance (p : List Char) : Decidable (IsDecimal p) := inferInstanceAs (Decidable (_ ∧ _))

/-- The bytes of a label, of a suffix and of a port are plain; none of them is a `:`, and only
    a suffix holds a `.`. -/
theorem labelByte_spec {c : Char} (h : c.isAlphanum ∨ c = '-') :
    isPlainByte c ∧ c ≠ '.' ∧ c ≠ ':' := by
  rcases h with h | rfl
  · refine ⟨by simp [isPlainByte, h], ?_, ?_⟩ <;> rintro rfl <;> exact absurd h (by decide)
  · decide

theorem suffixByte_spec {c : Char} (h : c.isAlphanum ∨ c = '-' ∨ c = '.') :
    isPlainByte c ∧ c ≠ ':' := by
  rcases h with h | h | rfl
  · exact ⟨(labelByte_spec (.inl h)).1, (labelByte_spec (.inl h)).2.2⟩
  · exact ⟨(labelByte_spec (.inr h)).1, (labelByte_spec (.inr h)).2.2⟩
  · decide

theorem digitByte_spec {c : Char} (h : c.isDigit) : isPlainByte c ∧ c ≠ '.' ∧ c ≠ ':' := by
  refine ⟨by simp [isPlainByte, Char.isAlphanum, h], ?_, ?_⟩ <;> rintro rfl <;>
    exact absurd h (by decide)

theorem IsDnsLabel.not_dot {s : List Char} (h : IsDnsLabel s) : '.' ∉ s :=
  fun hm => (labelByte_spec (h.2 _ hm)).2.1 rfl

theorem IsDnsLabel.not_colon {s : List Char} (h : IsDnsLabel s) : ':' ∉ s :=
  fun hm => (labelByte_spec (h.2 _ hm)).2.2 rfl

theorem IsDecimal.not_colon {p : List Char} (h : IsDecimal p) : ':' ∉ p :=
  fun hm => (digitByte_spec (h.2 _ hm)).2.2 rfl

/-- A label never starts an IPv6 literal. -/
theorem IsDnsLabel.hasPrefix_bracket {s : List Char} (h : IsDnsLabel s) (r : List Char) :
    hasPrefix (s ++ r) ['['] = false := by
  obtain ⟨c, t, rfl⟩ := List.exists_cons_of_ne_nil h.1
  have hc := (isPlainByte_spec (labelByte_spec (h.2 c (List.mem_cons_self c t))).1).2.2.2.2.2.2.2
  simp [hc]

theorem IsDomainSuffix.head {x : List Char} (h : IsDomainSuffix x) : x = [] ∨ x.head? = some '.' :=
  h.imp id And.left

/-- The bytes of `service.namespace[.suffix]:port` are plain, and it holds no `/`. -/
theorem labels_plain {s n x p : List Char} (hs : IsDnsLabel s) (hn : IsDnsLabel n)
    (hx : IsDomainSuffix x) (hp : IsDecimal p) :
    ∀ c ∈ s ++ '.' :: (n ++ (x ++ ':' :: p)), isPlainByte c := by
  intro c hc
  simp only [List.mem_append, List.mem_cons] at hc
  rcases hc with h | rfl | h | h | rfl | h
  · exact (labelByte_spec (hs.2 c h)).1
  · decide
  · exact (labelByte_spec (hn.2 c h)).1
  · rcases hx with rfl | ⟨_, hx⟩
    · simp at h
    · exact (suffixByte_spec (hx c h)).1
  · decide
  · exact (digitByte_spec (hp.2 c h)).1

/-- `kubernetes:///service.namespace[.suffix]:port`. -/
theorem parseResolverTarget_endpointForm {s n x p : List Char} (hs : IsDnsLabel s)
    (hn : IsDnsLabel n) (hx : IsDomainSuffix x) (hp : IsDecimal p) :
    ∃ u, parse ("kubernetes:///".toList ++ s ++ ".".toList ++ n ++ x ++ ":".toList ++ p) = .ok u ∧
      parseResolverTarget ⟨u⟩ = .ok ⟨n, s, p⟩ := by
  have hplain := labels_plain hs hn hx hp
  refine ⟨{ scheme := "kubernetes".toList, path := '/' :: (s ++ '.' :: (n ++ (x ++ ':' :: p))) },
    ?_, ?_⟩
  · simpa using @parse_of_plain "kubernetes".toList [] ('/' :: (s ++ '.' :: (n ++ (x ++ ':' :: p))))
      (by decide) (by decide) (by simp) (by simp [lastIndexByte])
      (.inr ⟨_, rfl, fun c hc => .inl (hplain c hc)⟩)
  · simp [parseResolverTarget, targetParts, Target.endpoint, trimPrefix, hs.1, hn.1, hp.1,
      splitServicePortNamespace_labels hs.not_dot hn.not_dot hx.head hp.not_colon]

/-- `kubernetes://namespace/service:port`. -/
theorem parseResolverTarget_namespaceForm {s n p : List Char} (hs : IsDnsLabel s)
    (hn : IsDnsLabel n) (hp : IsDecimal p) :
    ∃ u, parse ("kubernetes://".toList ++ n ++ "/".toList ++ s ++ ":".toList ++ p) = .ok u ∧
      parseResolverTarget ⟨u⟩ = .ok ⟨n, s, p⟩ := by
  have hplain := labels_plain hs hs (.inl rfl) hp
  have hn' : ∀ c ∈ n, isPlainByte c := fun c hc => (labelByte_spec (hn.2 c hc)).1
  refine ⟨{ scheme := "kubernetes".toList, host := n, path := '/' :: (s ++ ':' :: p) }, ?_, ?_⟩
  · simpa using @parse_of_plain "kubernetes".toList n ('/' :: (s ++ ':' :: p))
      (by decide) (by decide) hn' (by simp [lastIndexByte_of_not_mem hn.not_colon])
      (.inr ⟨_, rfl, fun c hc => .inl (hplain c (by simp_all))⟩)
  · have hhost : splitHostPort n = (n, []) :=
      splitHostPort_of_not_mem hn.not_colon (by simpa using hn.hasPrefix_bracket [])
    simp [parseResolverTarget, targetParts, Target.endpoint, trimPrefix, URL.port, URL.hostname,
      hhost, hs.1, hn.1, hp.1, splitServicePortNamespace_service hs.not_dot hp.not_colon]

/-- `kubernetes://service.namespace[.suffix]:port`. -/
theorem parseResolverTarget_hostForm {s n x p : List Char} (hs : IsDnsLabel s)
    (hn : IsDnsLabel n) (hx : IsDomainSuffix x) (hp : IsDecimal p) :
    ∃ u, parse ("kubernetes://".toList ++ s ++ ".".toList ++ n ++ x ++ ":".toList ++ p) = .ok u ∧
      parseResolverTarget ⟨u⟩ = .ok ⟨n, s, p⟩ := by
  have hplain := labels_plain hs hn hx hp
  have hauth : s ++ '.' :: (n ++ (x ++ ':' :: p)) = (s ++ '.' :: (n ++ x)) ++ ':' :: p := by simp
  have hlast : lastIndexByte ':' (s ++ '.' :: (n ++ (x ++ ':' :: p))) =
      some (s ++ '.' :: (n ++ x)).length := by
    rw [hauth, lastIndexByte_append_cons _ hp.not_colon]
  refine ⟨{ scheme := "kubernetes".toList, host := s ++ '.' :: (n ++ (x ++ ':' :: p)) }, ?_, ?_⟩
  · have hport : validOptionalPort ((s ++ '.' :: (n ++ (x ++ ':' :: p))).drop
        (s ++ '.' :: (n ++ x)).length) = true := by
      rw [hauth, List.drop_left]
      simpa [validOptionalPort] using hp.2
    simpa using @parse_of_plain "kubernetes".toList (s ++ '.' :: (n ++ (x ++ ':' :: p))) []
      (by decide) (by decide) (by simpa using hplain) (by simpa [hlast] using hport) (.inl rfl)
  · have hhost : splitHostPort (s ++ '.' :: (n ++ (x ++ ':' :: p))) = (s ++ '.' :: (n ++ x), p) := by
      rw [hauth]
      exact splitHostPort_append hp.2 (hs.hasPrefix_bracket _)
    simp [parseResolverTarget, targetParts, URL.port, hhost, hp.1, hs.1, hn.1,
      splitServicePortNamespace_labels hs.not_dot hn.not_dot hx.head hp.not_colon]

/-- Each documented target form, for a DNS service `s`, a DNS namespace `n`, an optional domain
    suffix `x` and a decimal port `p`, parses through `url.Parse` to service `s`, namespace `n`
    and port `p`. -/
theorem parseResolverTarget_forms {s n x p : List Char} (hs : IsDnsLabel s) (hn : IsDnsLabel n)
    (hx : IsDomainSuffix x) (hp : IsDecimal p) :
    (∃ u, parse ("kubernetes:///".toList ++ s ++ ".".toList ++ n ++ x ++ ":".toList ++ p) = .ok u ∧
      parseResolverTarget ⟨u⟩ = .ok ⟨n, s, p⟩) ∧
    (∃ u, parse ("kubernetes://".toList ++ n ++ "/".toList ++ s ++ ":".toList ++ p) = .ok u ∧
      parseResolverTarget ⟨u⟩ = .ok ⟨n, s, p⟩) ∧
    (∃ u, parse ("kubernetes://".toList ++ s ++ ".".toList ++ n ++ x ++ ":".toList ++ p) = .ok u ∧
      parseResolverTarget ⟨u⟩ = .ok ⟨n, s, p⟩) :=
  ⟨parseResolverTarget_endpointForm hs hn hx hp, parseResolverTarget_namespaceForm hs hn hp,
    parseResolverTarget_hostForm hs hn hx hp⟩

theorem parseResolverTarget_forms_metastore :
    IsDnsLabel "metastore".toList ∧ IsDnsLabel "pyroscope".toList ∧
      IsDomainSuffix ".svc.cluster.local".toList ∧ IsDecimal "9095".toList ∧
    ((∃ u, parse ("kubernetes:///".toList ++ "metastore".toList ++ ".".toList ++
        "pyroscope".toList ++ ".svc.cluster.local".toList ++ ":".toList ++ "9095".toList) = .ok u ∧
      parseResolverTarget ⟨u⟩ = .ok ⟨"pyroscope".toList, "metastore".toList, "9095".toList⟩) ∧
    (∃ u, parse ("kubernetes://".toList ++ "pyroscope".toList ++ "/".toList ++
        "metastore".toList ++ ":".toList ++ "9095".toList) = .ok u ∧
      parseResolverTarget ⟨u⟩ = .ok ⟨"pyroscope".toList, "metastore".toList, "9095".toList⟩) ∧
    (∃ u, parse ("kubernetes://".toList ++ "metastore".toList ++ ".".toList ++
        "pyroscope".toList ++ ".svc.cluster.local".toList ++ ":".toList ++ "9095".toList) = .ok u ∧
      parseResolverTarget ⟨u⟩ = .ok ⟨"pyroscope".toList, "metastore".toList, "9095".toList⟩)) :=
  ⟨by decide, by decide, by decide, by decide,
    parseResolverTarget_forms (by decide) (by decide) (by decide) (by decide)⟩

/-! ## Which targets are accepted

`parseResolverTarget` accepts a target exactly when the text of its form splits into a non-empty
service, namespace and port. In the host form that text is a host `url.Parse` has already
checked, so its port is decimal; the two other forms take the port from the path, which nothing
checks. -/

theorem parseResolverTarget_eq_ok_parts (t : Target) (ti : TargetInfo) :
    parseResolverTarget t = .ok ti ↔ ti.service ≠ [] ∧ ti.namespaceName ≠ [] ∧ ti.port ≠ [] ∧
      targetParts t = (ti.service, ti.port, ti.namespaceName) := by
  obtain ⟨n, s, p⟩ := ti
  unfold parseResolverTarget
  split
  next s' p' n' hparts =>
    rw [hparts]
    simp only [List.isEmpty_iff]
    split_ifs <;> simp_all
    constructor
    · rintro ⟨rfl, rfl, rfl⟩
      exact ⟨‹_›, ‹_›, ‹_›, rfl, rfl, rfl⟩
    · rintro ⟨-, -, -, rfl, rfl, rfl⟩
      exact ⟨rfl, rfl, rfl⟩

/-- The targets `parseResolverTarget` accepts, form by form: without a host, the endpoint is
    `service.namespace[.suffix]:port`; with a host that has no port and a non-empty endpoint, the
    namespace is the host name and the endpoint is `service[.anything]:port`; otherwise the host
    is `service.namespace[.suffix]:port`. Service, namespace and port are non-empty. -/
theorem parseResolverTarget_eq_ok_iff (t : Target) (ti : TargetInfo) :
    parseResolverTarget t = .ok ti ↔
      ti.service ≠ [] ∧ ti.namespaceName ≠ [] ∧ ti.port ≠ [] ∧
        if t.url.host = [] then IsServiceNamespacePort t.endpoint ti
        else if t.url.port = [] ∧ t.endpoint ≠ [] then
          ti.namespaceName = t.url.hostname ∧ IsServicePort t.endpoint ti
        else IsServiceNamespacePort t.url.host ti := by
  rw [parseResolverTarget_eq_ok_parts]
  refine and_congr_right fun _ => and_congr_right fun hn => and_congr_right fun hp => ?_
  simp only [targetParts, List.isEmpty_iff, Bool.and_eq_true, Bool.not_eq_true',
    List.isEmpty_eq_false]
  split_ifs
  · exact splitServicePortNamespace_eq_iff hn hp
  · rw [← splitServicePortNamespace_service_port_iff hp]
    simp only [Prod.mk.injEq]
    exact ⟨fun ⟨h1, h2, h3⟩ => ⟨h3.symm, h1, h2⟩, fun ⟨h3, h1, h2⟩ => ⟨h1, h2, h3.symm⟩⟩
  · exact splitServicePortNamespace_eq_iff hn hp

/-- The port `splitServicePortNamespace` returns is the text after the last `:`. -/
theorem splitServicePortNamespace_port {src name port : List Char}
    (hs : src = name ++ ':' :: port) (hp : ':' ∉ port) :
    (splitServicePortNamespace src).2.1 = port := by
  subst hs
  rw [splitServicePortNamespace_append hp]
  split <;> rfl

end Pyroscope.Discovery
