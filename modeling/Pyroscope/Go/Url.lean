import Pyroscope.Go.Basic

set_option autoImplicit false

/-! # `net/url.Parse` and the grpc `resolver.Target` accessors

`NewKubeResolverDiscovery` hands its target string to `url.Parse` and `parseResolverTarget` reads
the result only through `URL.Host`, `URL.Port()`, `URL.Hostname()` and the grpc accessor
`Target.Endpoint()` (the path, or the opaque part, without its leading `/`). This file models
`url.Parse` as the Go 1.22 standard library computes it, error paths included: the fragment is
cut at the first `#`, control bytes are refused, the scheme is read up to the first `:`, the
query is cut at the first `?`, a rootless rest is opaque, an authority `//user@host` is split
off at the next `/`, the host's port must be decimal and its bytes must be legal host bytes, and
every `%XX` escape is checked and decoded. A decoded escape is the byte `XX`, which is why Go
strings are byte lists here.

Nothing in this file is code of the repository; it is the library function through which
target parsing is stated. -/

namespace Pyroscope.Go.Url

open Pyroscope.Go

/-! ## Values and errors -/

/-- `url.Userinfo`: a user name and, when one was given, a password. -/
structure Userinfo where
  username : List Char
  password : Option (List Char)
  deriving DecidableEq, Repr

/-- `url.URL` with the fields `Parse` sets (`RawPath` and `RawFragment`, encoding hints that
    only `String()` reads, are left out). Go's field `Opaque` is `opaqueData`. -/
structure URL where
  scheme : List Char := []
  opaqueData : List Char := []
  user : Option Userinfo := none
  host : List Char := []
  path : List Char := []
  omitHost : Bool := false
  forceQuery : Bool := false
  rawQuery : List Char := []
  fragment : List Char := []
  deriving DecidableEq, Repr

/-- The errors of `url.Parse` (without the `*url.Error` wrapper, whose `Op` is always
    `"parse"`). -/
inductive UrlError
  /-- "net/url: invalid control character in URL" -/
  | invalidControlCharacter
  /-- "missing protocol scheme" -/
  | missingProtocolScheme
  /-- "first path segment in URL cannot contain colon" -/
  | colonInFirstPathSegment
  /-- "net/url: invalid userinfo" -/
  | invalidUserinfo
  /-- "missing ']' in host" -/
  | missingBracketInHost
  /-- "invalid port %q after host" -/
  | invalidPortAfterHost (colonPort : List Char)
  /-- `EscapeError`: "invalid URL escape %q" -/
  | escape (s : List Char)
  /-- `InvalidHostError`: "invalid character %q in host name" -/
  | invalidHost (s : List Char)
  deriving DecidableEq, Repr

/-! ## Byte classes -/

/-- `stringContainsCTLByte`'s test: an ASCII control byte. -/
def isCTL (c : Char) : Bool := c.toNat < 0x20 || c.toNat = 0x7f

/-- `ishex`. -/
def ishex (c : Char) : Bool := c.isDigit || ('a' ≤ c && c ≤ 'f') || ('A' ≤ c && c ≤ 'F')

/-- `unhex`: the value of a hex digit. -/
def unhex (c : Char) : Nat :=
  if c.isDigit then c.toNat - '0'.toNat
  else if 'a' ≤ c ∧ c ≤ 'f' then c.toNat - 'a'.toNat + 10
  else if 'A' ≤ c ∧ c ≤ 'F' then c.toNat - 'A'.toNat + 10
  else 0

/-- The punctuation `shouldEscape` lets through in a host: the unreserved marks, the
    sub-delimiters and `: [ ] < > "` (the last two bytes are the apostrophe and the double
    quote). -/
def hostMarks : List Char := "-_.~!$&()*+,;=:[]<>".toList ++ [Char.ofNat 39, Char.ofNat 34]

/-- `shouldEscape(c, encodeHost)`, which is also `shouldEscape(c, encodeZone)`. -/
def shouldEscapeHost (c : Char) : Bool := !(c.isAlphanum || c ∈ hostMarks)

/-- The bytes `validUserinfo` accepts. -/
def userinfoMarks : List Char := "-._:~!$&()*+,;=%@".toList ++ [Char.ofNat 39]

/-- `validUserinfo`. -/
def validUserinfo (s : List Char) : Bool := s.all fun r => r.isAlphanum || r ∈ userinfoMarks

/-- `validOptionalPort`: empty, or `:` followed by decimal digits only. -/
def validOptionalPort : List Char → Bool
  | [] => true
  | c :: s => c = ':' && s.all Char.isDigit

/-! ## Unescaping -/

/-- The `encoding` modes `Parse` unescapes with. -/
inductive Encoding
  | path
  | host
  | zone
  | userPassword
  | fragment
  deriving DecidableEq, Repr

/-- `unescape(s, mode)`: check every `%XX` escape and every host byte from the left, failing at
    the first bad one, and decode the escapes. A host may escape only non-ASCII bytes (or `%25`);
    a zone may escape any byte it could hold unescaped (or a space). -/
def unescape (mode : Encoding) : List Char → Except UrlError (List Char)
  | [] => .ok []
  | c :: s =>
    if c = '%' then
      match s with
      | a :: b :: rest =>
        let v := 16 * unhex a + unhex b
        if !(ishex a && ishex b) then .error (.escape ['%', a, b])
        else if mode = .host && unhex a < 8 && !(a = '2' && b = '5') then
          .error (.escape ['%', a, b])
        else if mode = .zone && !(a = '2' && b = '5') && v ≠ 32 &&
            shouldEscapeHost (Char.ofNat v) then
          .error (.escape ['%', a, b])
        else (Char.ofNat v :: ·) <$> unescape mode rest
      | _ => .error (.escape ('%' :: s))
    else if (mode = .host || mode = .zone) && c.toNat < 0x80 && shouldEscapeHost c then
      .error (.invalidHost [c])
    else (c :: ·) <$> unescape mode s

/-! ## Scheme, authority and host -/

/-- The loop of `getScheme` over `rawURL[i:]`, with `rawURL[:i]` in `seen`. -/
def getSchemeLoop (rawURL : List Char) : List Char → List Char →
    Except UrlError (List Char × List Char)
  | _, [] => .ok ([], rawURL)
  | seen, c :: rest =>
    if c.isAlpha then getSchemeLoop rawURL (seen ++ [c]) rest
    else if c.isDigit || c = '+' || c = '-' || c = '.' then
      if seen.isEmpty then .ok ([], rawURL) else getSchemeLoop rawURL (seen ++ [c]) rest
    else if c = ':' then
      if seen.isEmpty then .error .missingProtocolScheme else .ok (seen, rest)
    else .ok ([], rawURL)

/-- `getScheme`: the scheme before the first `:` and the rest, or no scheme when a byte that
    cannot be in a scheme comes first. -/
def getScheme (rawURL : List Char) : Except UrlError (List Char × List Char) :=
  getSchemeLoop rawURL [] rawURL

/-- `parseHost`: a bracketed IPv6 literal (with an optional `%25` zone) and a port, or a
    registered name whose last `:` starts a decimal port; the result is unescaped. -/
def parseHost (host : List Char) : Except UrlError (List Char) :=
  if hasPrefix host ['['] then
    match lastIndexByte ']' host with
    | none => .error .missingBracketInHost
    | some i =>
      let colonPort := host.drop (i + 1)
      if !validOptionalPort colonPort then .error (.invalidPortAfterHost colonPort)
      else match index "%25".toList (host.take i) with
        | some zone => do
          let host1 ← unescape .host (host.take zone)
          let host2 ← unescape .zone ((host.take i).drop zone)
          let host3 ← unescape .host (host.drop i)
          pure (host1 ++ host2 ++ host3)
        | none => unescape .host host
  else
    match lastIndexByte ':' host with
    | some i =>
      if !validOptionalPort (host.drop i) then .error (.invalidPortAfterHost (host.drop i))
      else unescape .host host
    | none => unescape .host host

/-- `parseAuthority`: the user information before the last `@`, and the host after it. -/
def parseAuthority (authority : List Char) : Except UrlError (Option Userinfo × List Char) :=
  match lastIndexByte '@' authority with
  | none => (parseHost authority).map fun host => (none, host)
  | some i => do
    let host ← parseHost (authority.drop (i + 1))
    let userinfo := authority.take i
    if !validUserinfo userinfo then .error .invalidUserinfo
    else if ':' ∉ userinfo then
      let username ← unescape .userPassword userinfo
      pure (some ⟨username, none⟩, host)
    else
      let username ← unescape .userPassword (cut ':' userinfo).1
      let password ← unescape .userPassword (cut ':' userinfo).2.1
      pure (some ⟨username, some password⟩, host)

/-! ## `Parse` -/

/-- The query split of `parse`: a lone trailing `?` forces an empty query, otherwise the query
    is cut off at the first `?`. Returns the rest, `RawQuery` and `ForceQuery`. -/
def splitQuery (rest : List Char) : List Char × List Char × Bool :=
  if rest.getLast? = some '?' ∧ rest.count '?' = 1 then (rest.dropLast, [], true)
  else ((cut '?' rest).1, (cut '?' rest).2.1, false)

/-- `parse(rawURL, false)` once the scheme is read: the opaque form, or an optional authority
    followed by the path. -/
def parseHierarchical (scheme rest : List Char) : Except UrlError URL :=
  let (rest, rawQuery, forceQuery) := splitQuery rest
  if !hasPrefix rest ['/'] && !scheme.isEmpty then
    .ok { scheme, opaqueData := rest, rawQuery, forceQuery }
  else if !hasPrefix rest ['/'] && ':' ∈ (cut '/' rest).1 then .error .colonInFirstPathSegment
  else if (!scheme.isEmpty || !hasPrefix rest "///".toList) && hasPrefix rest "//".toList then
    let authority := rest.drop 2
    let (authority, rest) := match indexByte '/' authority with
      | some i => (authority.take i, authority.drop i)
      | none => (authority, [])
    parseAuthority authority >>= fun (user, host) =>
      (unescape .path rest).map fun path => { scheme, user, host, path, rawQuery, forceQuery }
  else
    (unescape .path rest).map fun path =>
      { scheme, path, rawQuery, forceQuery, omitHost := !scheme.isEmpty && hasPrefix rest ['/'] }

/-- `parse(rawURL, false)`: the reference without its fragment. -/
def parseReference (rawURL : List Char) : Except UrlError URL :=
  if rawURL.any isCTL then .error .invalidControlCharacter
  else if rawURL = ['*'] then .ok { path := ['*'] }
  else getScheme rawURL >>= fun (scheme, rest) => parseHierarchical (scheme.map Char.toLower) rest

/-- `url.Parse`: cut the fragment off at the first `#`, parse the rest, unescape the
    fragment. -/
def parse (rawURL : List Char) : Except UrlError URL :=
  let (u, frag, _) := cut '#' rawURL
  parseReference u >>= fun url =>
    if frag.isEmpty then .ok url
    else (unescape .fragment frag).map fun fragment => { url with fragment }

/-! ## Accessors -/

/-- `splitHostPort` of `net/url`: the port after the last `:` when it is decimal, and the host
    before it without IPv6 brackets. -/
def splitHostPort (hostPort : List Char) : List Char × List Char :=
  let (host, port) := match lastIndexByte ':' hostPort with
    | some colon =>
      if validOptionalPort (hostPort.drop colon) then (hostPort.take colon, hostPort.drop (colon + 1))
      else (hostPort, [])
    | none => (hostPort, [])
  if hasPrefix host ['['] && host.getLast? = some ']' then ((host.drop 1).dropLast, port)
  else (host, port)

/-- `URL.Port()`. -/
def URL.port (u : URL) : List Char := (splitHostPort u.host).2

/-- `URL.Hostname()`. -/
def URL.hostname (u : URL) : List Char := (splitHostPort u.host).1

/-! ## Parsing plain references

The targets of the discovery code are built from DNS names, decimal ports and the separators
`:`, `/` and `.`. On such a reference `Parse` takes its plainest path: no fragment, no query, no
user information, a host that needs no unescaping and a path that needs no decoding. -/

/-- ASCII letters and digits, `-`, `.` and `:`: the bytes that a host or a path carries through
    `Parse` unchanged. -/
def isPlainByte (c : Char) : Bool := c.isAlphanum || c = '-' || c = '.' || c = ':'

/-- What `Parse` needs of a plain byte: it is no control byte, a host may hold it, and it is
    none of the bytes that start an escape, a fragment, a query, user information, a path or an
    IPv6 literal. -/
theorem isPlainByte_spec {c : Char} (h : isPlainByte c = true) :
    isCTL c = false ∧ shouldEscapeHost c = false ∧ c ≠ '%' ∧ c ≠ '#' ∧ c ≠ '?' ∧ c ≠ '@' ∧
      c ≠ '/' ∧ c ≠ '[' := by
  simp only [isPlainByte, Bool.or_eq_true, decide_eq_true_eq] at h
  rcases h with ((h | rfl) | rfl) | rfl
  · have hb : (65 ≤ c.toNat ∧ c.toNat ≤ 90 ∨ 97 ≤ c.toNat ∧ c.toNat ≤ 122) ∨
        48 ≤ c.toNat ∧ c.toNat ≤ 57 := by
      simpa [Char.isAlphanum, Char.isAlpha, Char.isUpper, Char.isLower, Char.isDigit] using h
    -- the special bytes all lie outside the three ranges of letters and digits
    have hne : ∀ d : Char, d.toNat < 48 ∨ d.toNat = 63 ∨ d.toNat = 64 ∨ d.toNat = 91 → c ≠ d := by
      rintro d hd rfl
      omega
    refine ⟨?_, by simp [shouldEscapeHost, h], hne _ (by decide), hne _ (by decide),
      hne _ (by decide), hne _ (by decide), hne _ (by decide), hne _ (by decide)⟩
    simp only [isCTL, Bool.or_eq_false_iff, decide_eq_false_iff_not]
    omega
  all_goals decide

/-- A byte of a plain reference: a plain byte or a `/`. -/
theorem not_mem_of_plainOrSlash {s : List Char} (h : ∀ c ∈ s, isPlainByte c ∨ c = '/')
    {d : Char} (hd : d = '#' ∨ d = '?' ∨ d = '%') : d ∉ s := by
  intro hm
  rcases h d hm with hp | rfl
  · have := isPlainByte_spec hp
    rcases hd with rfl | rfl | rfl <;> simp_all
  · rcases hd with h | h | h <;> exact absurd h (by decide)

theorem any_isCTL_of_plainOrSlash {s : List Char} (h : ∀ c ∈ s, isPlainByte c ∨ c = '/') :
    s.any isCTL = false := by
  simp only [List.any_eq_false]
  intro c hc
  rcases h c hc with hp | rfl
  · simp [(isPlainByte_spec hp).1]
  · decide

/-- `unescape` on a byte that does not start an escape: the host check, then the rest. -/
theorem unescape_cons_of_ne {mode : Encoding} {c : Char} (s : List Char) (hc : c ≠ '%') :
    unescape mode (c :: s) =
      if (mode = .host ∨ mode = .zone) ∧ c.toNat < 0x80 ∧ shouldEscapeHost c then
        .error (.invalidHost [c])
      else (c :: ·) <$> unescape mode s := by
  rcases s with _ | ⟨a, _ | ⟨b, rest⟩⟩ <;> simp [unescape, hc, and_assoc]

theorem unescape_path_of_not_mem {s : List Char} (h : '%' ∉ s) : unescape .path s = .ok s := by
  induction s with
  | nil => rfl
  | cons c s ih =>
    simp only [List.mem_cons, not_or] at h
    simp [unescape_cons_of_ne s (Ne.symm h.1), ih h.2, Functor.map, Except.map]

theorem unescape_host_of_plain {s : List Char} (h : ∀ c ∈ s, isPlainByte c) :
    unescape .host s = .ok s := by
  induction s with
  | nil => rfl
  | cons c s ih =>
    have hc := isPlainByte_spec (h c (List.mem_cons_self c s))
    simp [unescape_cons_of_ne s hc.2.2.1, hc.2.1, ih fun d hd => h d (List.mem_cons_of_mem c hd),
      Functor.map, Except.map]

/-- A plain host whose last `:`, if any, starts a decimal port is its own parse. -/
theorem parseHost_of_plain {host : List Char} (h : ∀ c ∈ host, isPlainByte c)
    (hport : ∀ i, lastIndexByte ':' host = some i → validOptionalPort (host.drop i) = true) :
    parseHost host = .ok host := by
  have hbracket : hasPrefix host ['['] = false := by
    cases host with
    | nil => rfl
    | cons c s => simp [(isPlainByte_spec (h c (List.mem_cons_self c s))).2.2.2.2.2.2.2]
  unfold parseHost
  rw [if_neg (by simp [hbracket])]
  split
  · next i hi => simp [hport i hi, unescape_host_of_plain h]
  · exact unescape_host_of_plain h

theorem parseAuthority_of_not_mem {authority : List Char} (h : '@' ∉ authority) :
    parseAuthority authority = (parseHost authority).map fun host => (none, host) := by
  simp [parseAuthority, lastIndexByte_of_not_mem h]

theorem splitQuery_of_not_mem {rest : List Char} (h : '?' ∉ rest) :
    splitQuery rest = (rest, [], false) := by
  simp [splitQuery, List.count_eq_zero_of_not_mem h, cut_of_not_mem h]

theorem getSchemeLoop_append {rawURL seen : List Char} (rest : List Char) {s : List Char}
    (hseen : seen ≠ []) (hs : ∀ c ∈ s, c.isAlpha = true) :
    getSchemeLoop rawURL seen (s ++ ':' :: rest) = .ok (seen ++ s, rest) := by
  induction s generalizing seen with
  | nil => simp [getSchemeLoop, hseen]
  | cons c s ih =>
    simp only [List.mem_cons, forall_eq_or_imp] at hs
    simp [getSchemeLoop, hs.1, @ih (seen ++ [c]) (by simp) hs.2]

/-- `parse` after the scheme, on `//authority/path` without a query: the authority ends at the
    first `/`. -/
theorem parseHierarchical_authority {scheme auth path : List Char} (hs : scheme ≠ [])
    (hq : '?' ∉ auth ++ path) (hsl : '/' ∉ auth) (hpath : path = [] ∨ ∃ p, path = '/' :: p) :
    parseHierarchical scheme ('/' :: '/' :: (auth ++ path)) =
      parseAuthority auth >>= fun (user, host) =>
        (unescape .path path).map fun path => { scheme, user, host, path } := by
  have hq' : '?' ∉ '/' :: '/' :: (auth ++ path) := by simpa using hq
  have hsplit : (match indexByte '/' (auth ++ path) with
      | some i => ((auth ++ path).take i, (auth ++ path).drop i)
      | none => (auth ++ path, [])) = (auth, path) := by
    rcases hpath with rfl | ⟨p, rfl⟩
    · simp [indexByte_of_not_mem hsl]
    · simp [indexByte_append_cons p hsl]
  simp [parseHierarchical, splitQuery_of_not_mem hq', hs, hsplit]

/-- A host with no `:` has no port; a plain one is its own host name. -/
theorem splitHostPort_of_not_mem {host : List Char} (h : ':' ∉ host)
    (hb : hasPrefix host ['['] = false) : splitHostPort host = (host, []) := by
  simp [splitHostPort, lastIndexByte_of_not_mem h, hb]

/-- A decimal port after the last `:` of a host without `[` is split off. -/
theorem splitHostPort_append {host port : List Char} (hp : ∀ c ∈ port, c.isDigit = true)
    (hb : hasPrefix host ['['] = false) : splitHostPort (host ++ ':' :: port) = (host, port) := by
  have hc : ':' ∉ port := fun h => absurd (hp ':' h) (by decide)
  simp [splitHostPort, lastIndexByte_append_cons host hc, validOptionalPort, hb, List.all_eq_true.2 hp]

theorem getScheme_append {scheme : List Char} (rest : List Char) (hs : scheme ≠ [])
    (hsa : ∀ c ∈ scheme, c.isAlpha = true) : getScheme (scheme ++ ':' :: rest) = .ok (scheme, rest) := by
  obtain ⟨c, s, rfl⟩ := List.exists_cons_of_ne_nil hs
  simp only [List.mem_cons, forall_eq_or_imp] at hsa
  simp [getScheme, getSchemeLoop, hsa.1, getSchemeLoop_append rest (List.cons_ne_nil c []) hsa.2]

/-- A reference `scheme://authority/path` made of letters in the scheme and plain bytes
    elsewhere parses to its scheme (lower-cased), host and path. -/
theorem parse_of_plain {scheme auth path : List Char} (hs : scheme ≠ [])
    (hsa : ∀ c ∈ scheme, c.isAlpha = true) (ha : ∀ c ∈ auth, isPlainByte c)
    (hport : ∀ i, lastIndexByte ':' auth = some i → validOptionalPort (auth.drop i) = true)
    (hpath : path = [] ∨ ∃ p, path = '/' :: p ∧ ∀ c ∈ p, isPlainByte c ∨ c = '/') :
    parse (scheme ++ ':' :: '/' :: '/' :: (auth ++ path)) =
      .ok { scheme := scheme.map Char.toLower, host := auth, path } := by
  have hpath' : ∀ c ∈ path, isPlainByte c ∨ c = '/' := by
    rcases hpath with rfl | ⟨p, rfl, hp⟩
    · simp
    · simpa using hp
  have hbytes : ∀ c ∈ scheme ++ ':' :: '/' :: '/' :: (auth ++ path), isPlainByte c ∨ c = '/' := by
    intro c hc
    simp only [List.mem_append, List.mem_cons] at hc
    rcases hc with hc | rfl | rfl | rfl | hc | hc
    · simp [isPlainByte, Char.isAlphanum, hsa c hc]
    all_goals first | decide | exact .inl (ha c hc) | exact hpath' c hc
  have hauth : '?' ∉ auth ++ path ∧ '/' ∉ auth ∧ '@' ∉ auth := by
    refine ⟨fun h => ?_, fun h => ?_, fun h => ?_⟩
    · exact not_mem_of_plainOrSlash hbytes (.inr (.inl rfl)) (by simp [h])
    · exact (isPlainByte_spec (ha _ h)).2.2.2.2.2.2.1 rfl
    · exact (isPlainByte_spec (ha _ h)).2.2.2.2.2.1 rfl
  have hstar : scheme ++ ':' :: '/' :: '/' :: (auth ++ path) ≠ ['*'] := by
    intro h
    have := congrArg List.length h
    simp at this
    omega
  rw [parse, cut_of_not_mem (not_mem_of_plainOrSlash hbytes (.inl rfl))]
  simp only [parseReference, any_isCTL_of_plainOrSlash hbytes, hstar, getScheme_append _ hs hsa]
  simp [@parseHierarchical_authority (scheme.map Char.toLower) auth path (by simpa using hs) hauth.1
      hauth.2.1 (hpath.imp_right fun ⟨p, hp, _⟩ => ⟨p, hp⟩),
    parseAuthority_of_not_mem hauth.2.2, parseHost_of_plain ha hport,
    unescape_path_of_not_mem (not_mem_of_plainOrSlash hpath' (.inr (.inr rfl)))]

/-! ## What `Parse` accepts as a host

Every host `Parse` returns is empty or the result of `parseHost`. Without brackets, `parseHost`
checks the text from the last `:` on as a port and then unescapes the whole host; a host escape
decodes to `%` or to a non-ASCII byte, never to a `:` or a digit, so the last `:` of the result
is the one the check saw and what follows it is decimal. -/

/-- The three checks `unescape` makes of an escape `%ab`, all failing with the same error: two hex
    digits; in a host, a non-ASCII byte or `%25`; in a zone, `%25`, a space or a byte a host may
    hold. -/
def escapeAccepted (mode : Encoding) (a b : Char) : Bool :=
  (ishex a && ishex b) && !(mode = .host && unhex a < 8 && !(a = '2' && b = '5')) &&
    !(mode = .zone && !(a = '2' && b = '5') && 16 * unhex a + unhex b ≠ 32 &&
      shouldEscapeHost (Char.ofNat (16 * unhex a + unhex b)))

/-- `unescape` on an escape: the checks, then the decoded byte before the rest. -/
theorem unescape_escape (mode : Encoding) (a b : Char) (rest : List Char) :
    unescape mode ('%' :: a :: b :: rest) =
      if escapeAccepted mode a b then (Char.ofNat (16 * unhex a + unhex b) :: ·) <$> unescape mode rest
      else .error (.escape ['%', a, b]) := by
  simp only [unescape, if_true]
  cases hx : (ishex a && ishex b) <;>
    cases hy : (mode = .host && unhex a < 8 && !(a = '2' && b = '5')) <;>
    cases hz : (mode = .zone && !(a = '2' && b = '5') && 16 * unhex a + unhex b ≠ 32 &&
      shouldEscapeHost (Char.ofNat (16 * unhex a + unhex b))) <;>
    simp only [escapeAccepted, hx, hy, hz] <;> rfl

theorem escapeAccepted_hex {mode : Encoding} {a b : Char} (h : escapeAccepted mode a b = true) :
    ishex a = true ∧ ishex b = true := by
  simp only [escapeAccepted, Bool.and_eq_true] at h
  exact h.1.1

/-- A `%` that `unescape` gets past starts an accepted escape. -/
theorem unescape_percent_ok {mode : Encoding} {s out : List Char}
    (h : unescape mode ('%' :: s) = .ok out) :
    ∃ a b rest, s = a :: b :: rest ∧ escapeAccepted mode a b = true := by
  rcases s with _ | ⟨a, _ | ⟨b, rest⟩⟩
  · cases h
  · cases h
  · rw [unescape_escape] at h
    split at h
    · exact ⟨a, b, rest, rfl, ‹_›⟩
    · cases h

/-- What `unescape` does with the first byte of a string it accepts: it decodes an accepted
    escape, or keeps a byte that is not `%` and passes the host check. -/
theorem unescape_cons_eq_ok {mode : Encoding} {c : Char} {s out : List Char} :
    unescape mode (c :: s) = .ok out ↔
      (c = '%' ∧ ∃ a b rest o, s = a :: b :: rest ∧ escapeAccepted mode a b = true ∧
        unescape mode rest = .ok o ∧ out = Char.ofNat (16 * unhex a + unhex b) :: o) ∨
      (c ≠ '%' ∧ ¬((mode = .host ∨ mode = .zone) ∧ c.toNat < 0x80 ∧ shouldEscapeHost c) ∧
        ∃ o, unescape mode s = .ok o ∧ out = c :: o) := by
  by_cases hc : c = '%'
  · subst hc
    constructor
    · intro h
      obtain ⟨a, b, rest, rfl, hok⟩ := unescape_percent_ok h
      rw [unescape_escape, if_pos hok] at h
      obtain ⟨o, ho, rfl⟩ := except_map_eq_ok.1 h
      exact .inl ⟨rfl, a, b, rest, o, rfl, hok, ho, rfl⟩
    · rintro (⟨-, a, b, rest, o, rfl, hok, ho, rfl⟩ | ⟨h, -⟩)
      · rw [unescape_escape, if_pos hok, ho]; rfl
      · exact absurd rfl h
  · rw [unescape_cons_of_ne _ hc]
    split
    · simp_all
    · constructor
      · intro h
        obtain ⟨o, ho, rfl⟩ := except_map_eq_ok.1 h
        exact .inr ⟨hc, ‹_›, o, ho, rfl⟩
      · rintro (⟨h, -⟩ | ⟨-, -, o, ho, rfl⟩)
        · exact absurd h hc
        · rw [ho]; rfl

theorem toNat_ofNat_of_lt {n : Nat} (h : n < 0xd800) : (Char.ofNat n).toNat = n := by
  simp [Char.ofNat, show n.isValidChar from Or.inl h, Char.ofNatAux, Char.toNat, UInt32.toNat]

theorem unhex_lt (c : Char) : unhex c < 16 := by
  unfold unhex
  split_ifs with h1 h2 h3
  · have : 48 ≤ c.toNat ∧ c.toNat ≤ 57 := by simpa [Char.isDigit] using h1
    simp; omega
  · have : 97 ≤ c.toNat ∧ c.toNat ≤ 102 := by simpa [Char.le_def] using h2
    simp; omega
  · have : 65 ≤ c.toNat ∧ c.toNat ≤ 70 := by simpa [Char.le_def] using h3
    simp; omega
  · omega

/-- A host escape decodes to `%` (from `%25`) or to a non-ASCII byte. -/
theorem escapeAccepted_host {a b : Char} (h : escapeAccepted .host a b = true) :
    Char.ofNat (16 * unhex a + unhex b) = '%' ∨
      0x80 ≤ (Char.ofNat (16 * unhex a + unhex b)).toNat := by
  have hlt : 16 * unhex a + unhex b < 0xd800 := by
    have := unhex_lt a; have := unhex_lt b; omega
  simp only [escapeAccepted, Bool.and_eq_true, Bool.not_eq_true', Bool.and_eq_false_imp] at h
  by_cases h8 : unhex a < 8
  · obtain ⟨rfl, rfl⟩ : a = '2' ∧ b = '5' := by simpa [h8] using h.1.2
    exact .inl (by decide)
  · exact .inr (by rw [toNat_ofNat_of_lt hlt]; omega)

/-- Unescaping a string that ends in a suffix `r` which is its own unescaping, and which does not
    start with a hex digit (so no escape of the prefix reaches into it), unescapes the prefix and
    keeps `r`. -/
theorem unescape_append_of_fixed {mode : Encoding} {r : List Char} (hr : unescape mode r = .ok r)
    (hhead : ∀ c ∈ r.head?, ishex c = false) :
    ∀ (p : List Char) {out : List Char}, unescape mode (p ++ r) = .ok out →
      ∃ o, unescape mode p = .ok o ∧ out = o ++ r
  | [], out, h => ⟨[], rfl, by rw [List.nil_append, hr] at h; exact (Except.ok.inj h).symm⟩
  | c :: p, out, h => by
    rw [List.cons_append] at h
    rcases unescape_cons_eq_ok.1 h with ⟨rfl, a, b, rest, o', hs, hok, ho, rfl⟩ |
      ⟨hc, hchk, o', ho, rfl⟩
    -- an escape of `p ++ r` lies within `p`, since `r` does not start with a hex digit
    · have hhex := escapeAccepted_hex hok
      rcases p with _ | ⟨a', _ | ⟨b', p⟩⟩
      · simp only [List.nil_append] at hs
        exact absurd (hhead a (by simp [hs])) (by simp [hhex.1])
      · simp only [List.singleton_append, List.cons.injEq] at hs
        exact absurd (hhead b (by simp [hs.2])) (by simp [hhex.2])
      · simp only [List.cons_append, List.cons.injEq] at hs
        obtain ⟨rfl, rfl, rfl⟩ := hs
        obtain ⟨o, ho', rfl⟩ := unescape_append_of_fixed hr hhead p ho
        exact ⟨_, unescape_cons_eq_ok.2 (.inl ⟨rfl, a', b', p, o, rfl, hok, ho', rfl⟩), rfl⟩
    · obtain ⟨o, ho', rfl⟩ := unescape_append_of_fixed hr hhead p ho
      exact ⟨c :: o, unescape_cons_eq_ok.2 (.inr ⟨hc, hchk, o, ho', rfl⟩), rfl⟩

/-- Host unescaping makes no ASCII byte other than `%`: every other ASCII byte of its result was
    in its input. -/
theorem mem_of_unescape_host {c : Char} (hc : c.toNat < 0x80) (hp : c ≠ '%') :
    ∀ {s out : List Char}, unescape .host s = .ok out → c ∈ out → c ∈ s
  | [], out, h, hm => by cases h; simp at hm
  | d :: s, out, h, hm => by
    rcases unescape_cons_eq_ok.1 h with ⟨rfl, a, b, rest, o, rfl, hok, ho, rfl⟩ |
      ⟨-, -, o, ho, rfl⟩
    · rcases List.mem_cons.1 hm with rfl | hm
      · rcases escapeAccepted_host hok with h' | h'
        · exact absurd h' hp
        · omega
      · exact .tail _ (.tail _ (.tail _ (mem_of_unescape_host hc hp ho hm)))
    · rcases List.mem_cons.1 hm with rfl | hm
      · exact .head _
      · exact .tail _ (mem_of_unescape_host hc hp ho hm)
termination_by s => s.length

theorem unescape_host_bracket {s out : List Char} (h : unescape .host ('[' :: s) = .ok out) :
    out.head? = some '[' := by
  rw [unescape_cons_of_ne s (by decide), if_neg (by decide)] at h
  obtain ⟨o, -, rfl⟩ := except_map_eq_ok.1 h
  rfl

/-- Whatever `parseHost` returns for a bracketed host starts with its `[`. -/
theorem parseHost_bracket {raw out : List Char} (hb : hasPrefix raw ['['] = true)
    (h : parseHost raw = .ok out) : out.head? = some '[' := by
  obtain ⟨raw, rfl⟩ : ∃ r, raw = '[' :: r := by
    rcases raw with _ | ⟨c, r⟩
    · cases hb
    · simp only [cons_hasPrefix_cons, hasPrefix_nil, Bool.and_true, decide_eq_true_eq] at hb
      exact ⟨r, hb ▸ rfl⟩
  rw [parseHost, if_pos hb] at h
  split at h
  · cases h
  · next i _ =>
    dsimp only at h
    split_ifs at h
    split at h
    · next zone hzone =>
      -- the zone starts after the `[`, so the first piece is unescaped from `[` on
      have hz : zone ≠ 0 := index_ne_zero hzone (by cases i <;> rfl)
      obtain ⟨host1, h1, h2⟩ := except_bind_eq_ok.1 h
      obtain ⟨host2, -, h3⟩ := except_bind_eq_ok.1 h2
      obtain ⟨host3, -, h4⟩ := except_bind_eq_ok.1 h3
      cases h4
      obtain ⟨z, rfl⟩ := Nat.exists_eq_succ_of_ne_zero hz
      have := unescape_host_bracket h1
      cases host1 <;> simp_all
    · exact unescape_host_bracket h

/-- The text after the last `:` of a host `parseHost` returns without brackets is decimal: the
    port check and the host's unescaping agree on where that `:` is. -/
theorem parseHost_port {raw out : List Char} (h : parseHost raw = .ok out)
    (hb : out.head? ≠ some '[') {name port : List Char} (hs : out = name ++ ':' :: port)
    (hp : ':' ∉ port) : ∀ c ∈ port, c.isDigit = true := by
  have hbr : hasPrefix raw ['['] = false := by
    cases hr : hasPrefix raw ['['] with
    | false => rfl
    | true => exact absurd (parseHost_bracket hr h) hb
  rw [parseHost, if_neg (by simp [hbr])] at h
  split at h
  · next i hi =>
    obtain ⟨b, a, ha, rfl, rfl⟩ := lastIndexByte_eq_some hi
    rw [List.drop_left] at h
    split_ifs at h with hport
    have hdig : ∀ c ∈ a, c.isDigit = true := by simpa [validOptionalPort] using hport
    have hfix : unescape .host (':' :: a) = .ok (':' :: a) := by
      refine unescape_host_of_plain fun c hc => ?_
      rcases List.mem_cons.1 hc with rfl | hc
      · rfl
      · simp [isPlainByte, Char.isAlphanum, hdig c hc]
    obtain ⟨o, -, rfl⟩ := unescape_append_of_fixed hfix (by simp [ishex]) b h
    exact (split_last_unique hp ha hs.symm).2 ▸ hdig
  · next hi =>
    exact absurd (mem_of_unescape_host (by decide) (by decide) h (by simp [hs]))
      (lastIndexByte_eq_none hi)

theorem parseAuthority_host {authority : List Char} {user : Option Userinfo} {host : List Char}
    (h : parseAuthority authority = .ok (user, host)) : ∃ raw, parseHost raw = .ok host := by
  unfold parseAuthority at h
  split at h
  · obtain ⟨host', h', hh⟩ := except_map_eq_ok.1 h
    cases hh
    exact ⟨_, h'⟩
  · obtain ⟨host', h1, h2⟩ := except_bind_eq_ok.1 h
    refine ⟨_, h1.trans ?_⟩
    dsimp only at h2
    split_ifs at h2
    · obtain ⟨_, -, h3⟩ := except_bind_eq_ok.1 h2
      obtain ⟨_, -, h4⟩ := except_bind_eq_ok.1 h3
      cases h4; rfl
    · obtain ⟨_, -, h3⟩ := except_bind_eq_ok.1 h2
      cases h3; rfl

theorem parseHierarchical_host {scheme rest : List Char} {u : URL}
    (h : parseHierarchical scheme rest = .ok u) :
    u.host = [] ∨ ∃ raw, parseHost raw = .ok u.host := by
  unfold parseHierarchical at h
  split at h
  split_ifs at h
  · cases h; exact .inl rfl
  · dsimp only at h
    split at h <;>
    · obtain ⟨⟨user, host⟩, h1, h2⟩ := except_bind_eq_ok.1 h
      obtain ⟨path, -, rfl⟩ := except_map_eq_ok.1 h2
      exact .inr (parseAuthority_host h1)
  · obtain ⟨path, -, rfl⟩ := except_map_eq_ok.1 h
    exact .inl rfl

/-- The host of every URL `Parse` returns is empty or a result of `parseHost`. -/
theorem parse_host {rawURL : List Char} {u : URL} (h : parse rawURL = .ok u) :
    u.host = [] ∨ ∃ raw, parseHost raw = .ok u.host := by
  unfold parse at h
  split at h
  obtain ⟨url, h1, h2⟩ := except_bind_eq_ok.1 h
  have hhost : u.host = url.host := by
    split_ifs at h2
    · cases h2; rfl
    · obtain ⟨fragment, -, rfl⟩ := except_map_eq_ok.1 h2; rfl
  rw [hhost]
  unfold parseReference at h1
  split_ifs at h1
  · cases h1; exact .inl rfl
  · obtain ⟨⟨scheme, rest⟩, -, h3⟩ := except_bind_eq_ok.1 h1
    exact parseHierarchical_host h3

/-- In every host `Parse` accepts that is not an IPv6 literal, the text after the last `:` is
    decimal. -/
theorem parse_host_port {rawURL : List Char} {u : URL} (h : parse rawURL = .ok u)
    (hb : u.host.head? ≠ some '[') {name port : List Char} (hs : u.host = name ++ ':' :: port)
    (hp : ':' ∉ port) : ∀ c ∈ port, c.isDigit = true := by
  rcases parse_host h with h0 | ⟨raw, hraw⟩
  · simp [h0] at hs
  · exact parseHost_port hraw hb hs hp

end Pyroscope.Go.Url

namespace Pyroscope.Go.Resolver

open Pyroscope.Go Pyroscope.Go.Url

/-- grpc's `resolver.Target`: the parsed dial target. -/
structure Target where
  url : URL
  deriving DecidableEq, Repr

/-- `Target.Endpoint()`: the URL path, or the opaque part when the path is empty, without a
    leading `/`. -/
def Target.endpoint (t : Target) : List Char :=
  trimPrefix (if t.url.path.isEmpty then t.url.opaqueData else t.url.path) ['/']

end Pyroscope.Go.Resolver
