import AidnSpec.Base.Conversions
import AidnSpec.Base.UrlSplit

/-!
# Ports of managed runtimes

`runtime_port_allocator.py`: leases of listening ports, kept under the runtime and under the host
and the port, and the launch specifications they are written into. A lease is looked up under the
text of its host; whether a socket can be bound is asked of the system.
-/

namespace AidnSpec.Node

open Base List

/-- What the allocator raises. -/
inductive AllocationError where
  | python (error : PyError)
  /-- `RuntimePortAllocationError`: its text and its details. -/
  | unavailable (message host : String) (requestedPort : Option Int) (startPort endPort : Int)

structure RuntimePortLease where
  runtimeId : String
  host : String
  port : Int
  requestedPort : Option Int := none

/-- `RuntimePortAllocator`, with a valid range. -/
structure RuntimePortAllocator where
  startPort : Int := 8000
  endPort : Int := 8999
  leasesByRuntime : Dict String RuntimePortLease := .empty
  leasesByPort : Dict (String × Int) String := .empty
  range : 1 ≤ startPort ∧ startPort ≤ endPort ∧ endPort ≤ 65535 := by decide

/-- `range(first, last + 1)`. -/
def portRange (first last : Int) : List Int :=
  (List.range (last + 1 - first).toNat).map fun i : ℕ => first + i

def localHosts : List String := ["127.0.0.1", "localhost", "0.0.0.0", "::1", "::"]

namespace RuntimePortAllocator

/-- The ports that `reserve` tries, in order: the requested one, those above it, the range. -/
def candidates (a : RuntimePortAllocator) (requestedPort : Option Int) : List Int :=
  let preferred :=
    match requestedPort with
    | none => []
    | some requested =>
      requested :: (portRange (max a.startPort (requested + 1)) a.endPort).filter (· ≠ requested)
  preferred ++ (portRange a.startPort a.endPort).filter (· ∉ preferred)

/-- A port that is not leased under the host and, when it is probed, can be bound. -/
def takeable (a : RuntimePortAllocator) (host : String) (checkAvailable : Bool)
    (isAvailable : String → Int → Bool) (port : Int) : Bool :=
  !a.leasesByPort.contains (host, port) && (!checkAvailable || isAvailable host port)

/-- Both maps hold a new lease. -/
def add (a : RuntimePortAllocator) (lease : RuntimePortLease) : RuntimePortAllocator :=
  { a with
    leasesByRuntime := a.leasesByRuntime.set lease.runtimeId lease
    leasesByPort := a.leasesByPort.set (lease.host, lease.port) lease.runtimeId }

/-- The arguments of `reserve` are valid. -/
def checkArguments (runtimeId host : String) (requestedPort : Option Int) :
    Except PyError Unit := do
  require (!runtimeId.isEmpty) "runtime_id is required"
  require (!host.isEmpty) "runtime host is required"
  require (requestedPort.all fun port => 1 ≤ port && port ≤ 65535)
    "requested runtime port is invalid"

/-- `RuntimePortAllocator.reserve`; `isAvailable` is what the probe of a socket answers. -/
def reserve (a : RuntimePortAllocator) (runtimeId host : String) (requestedPort : Option Int)
    (checkAvailable : Bool) (isAvailable : String → Int → Bool) :
    Except AllocationError RuntimePortLease × RuntimePortAllocator :=
  match checkArguments runtimeId host requestedPort with
  | .error e => (.error (.python e), a)
  | .ok () =>
    match a.leasesByRuntime.get? runtimeId with
    | some existing => (.ok existing, a)
    | none =>
      match (a.candidates requestedPort).find? (a.takeable host checkAvailable isAvailable) with
      | some port =>
        let lease : RuntimePortLease := ⟨runtimeId, host, port, requestedPort⟩
        (.ok lease, a.add lease)
      | none =>
        (.error (.unavailable s!"no free runtime port for {host}:{requestedPort.getD a.startPort}"
          host requestedPort a.startPort a.endPort), a)

def release (a : RuntimePortAllocator) (runtimeId : String) :
    Option RuntimePortLease × RuntimePortAllocator :=
  match a.leasesByRuntime.get? runtimeId with
  | none => (none, a)
  | some lease =>
    (some lease, { a with
      leasesByRuntime := a.leasesByRuntime.erase runtimeId
      leasesByPort := a.leasesByPort.erase (lease.host, lease.port) })

/-- `RuntimePortAllocator.restore`: the probe is not asked. -/
def restore (a : RuntimePortAllocator) (runtimeId host : String) (port : Int) :
    Except AllocationError (Option RuntimePortLease) × RuntimePortAllocator :=
  match a.reserve runtimeId host (some port) false fun _ _ => true with
  | (.ok lease, a') => (.ok (some lease), a')
  | (.error (.unavailable ..), a') => (.ok none, a')
  | (.error e, a') => (.error e, a')

end RuntimePortAllocator

/-! ## Launch specifications -/

/-- `list(value)`. -/
def listOf : PyValue → Except PyError (List PyValue)
  | .list items => .ok items
  | .str s => .ok (s.toList.map fun c => .str (String.singleton c))
  | .dict members => .ok (members.map fun m => .str m.1)
  | _ => raiseType "object is not iterable"

/-- `list(launch_spec.get("command") or [])`. -/
def commandOf (launchSpec : Fields) : Except PyError (List PyValue) :=
  listOf ((PyValue.get launchSpec "command").orElse (.list []))

/-- `text.startswith(start)`. -/
def startsWith (text start : String) : Bool := start.toList.isPrefixOf text.toList

def tokenText : PyValue → Option String
  | .str text => some text
  | _ => none

/-- `_replace_command_port`, with the port as text. -/
def replaceCommandPort (portArgument port : String) : List PyValue → Except PyError (List PyValue)
  | [] => .ok [.str portArgument, .str port]
  | token :: rest =>
    if token = .str portArgument then .ok (token :: .str port :: rest.drop 1)
    else
      match tokenText token with
      | none => .error ⟨.attribute, "object has no attribute 'startswith'"⟩
      | some text =>
        if startsWith text (portArgument ++ "=") then
          .ok (.str (portArgument ++ "=" ++ port) :: rest)
        else do
          let replaced ← replaceCommandPort portArgument port rest
          return token :: replaced

/-- The userinfo of a URL with its mark. -/
def userinfo (parsed : SplitResult) : List Char :=
  if parsed.username.any (· ≠ []) || parsed.password.any (· ≠ []) then
    (parsed.username.getD [] ++
      match parsed.password with
      | some password => ':' :: password
      | none => []) ++ ['@']
  else []

/-- The host of a URL as it stands in front of a port. -/
def hostPart (parsed : SplitResult) : List Char :=
  let host := parsed.hostname.getD "127.0.0.1".toList
  if host.contains ':' && host.head? ≠ some '[' then '[' :: (host ++ [']']) else host

def replaceEndpointPort (parsed : SplitResult) (port : Int) : String :=
  String.ofList (urlunsplit { parsed with
    netloc := userinfo parsed ++ hostPart parsed ++ ':' :: (toString port).toList })

/-- A launch specification that gets a port. -/
structure LaunchRequest where
  metadata : Fields
  parsed : SplitResult
  host : String
  requestedPort : Option Int
  portArgument : String

/-- `port_argument`, or `"--port"` when the command already has one; `none` when the command
accepts no port. -/
def portArgumentOf (launchSpec : Fields) : Except PyError (Option String) :=
  match PyValue.get launchSpec "port_argument" with
  | .str text => if text.isEmpty then fromCommand else .ok (some text)
  | _ => fromCommand
where
  fromCommand : Except PyError (Option String) := do
    let command ← commandOf launchSpec
    return if command.any fun token => token = .str "--port" ||
        (tokenText token).any (startsWith · "--port=")
      then some "--port" else none

section Specs

variable [Conversions] [NetlocChecks]

/-- `dict(launch_spec.get("metadata") or {})`. -/
def metadataOf (launchSpec : Fields) : Except PyError Fields :=
  match (PyValue.get launchSpec "metadata").orElse (.dict []) with
  | .dict members => .ok members
  | other => Conversions.toDict other

/-- What `prepare_launch_spec` checks before it reserves a port; `none` when the specification is
returned as it is. -/
def launchRequest (launchSpec : Fields) : Except PyError (Option LaunchRequest) :=
  if PyValue.get launchSpec "launch_mode" ≠ .str "managed_process" then .ok none
  else do
    let metadata ← metadataOf launchSpec
    match PyValue.get metadata "endpoint" with
    | .str endpoint =>
      if isBlank endpoint then return none
      else do
        let parsed ← urlsplit endpoint.toList
        match parsed.hostname with
        | none => return none
        | some hostname =>
          let host := String.ofList hostname
          if parsed.scheme ∉ ["http".toList, "https".toList] ∨ host ∉ localHosts then return none
          else do
            let requestedPort ← parsed.port
            let portArgument ← portArgumentOf launchSpec
            return portArgument.map fun argument =>
              ⟨metadata, parsed, host, requestedPort.map Int.ofNat, argument⟩
    | _ => return none

/-- The metadata of a prepared specification. -/
def preparedMetadata (request : LaunchRequest) (runtimeId : String) (port : Int) : Fields :=
  Dict.put "port_lease_id" (.str runtimeId)
    (Dict.put "requested_port"
      (.str (match request.requestedPort with
        | none => ""
        | some 0 => ""
        | some requested => toString requested))
      (Dict.put "port" (.str (toString port))
        (Dict.put "endpoint" (.str (replaceEndpointPort request.parsed port)) request.metadata)))

/-- What is written into a specification once a port is leased. -/
def preparedSpec (launchSpec : Fields) (request : LaunchRequest) (runtimeId : String) (port : Int) :
    Except PyError Fields := do
  let command ← commandOf launchSpec
  let replaced ← replaceCommandPort request.portArgument (toString port) command
  return Dict.put "metadata" (.dict (preparedMetadata request runtimeId port))
    (Dict.put "command" (.list replaced) launchSpec)

/-- `RuntimePortAllocator.prepare_launch_spec`. The port stays leased when the command turns out
to be unusable. -/
def RuntimePortAllocator.prepareLaunchSpec (a : RuntimePortAllocator) (runtimeId : String)
    (launchSpec : Fields) (isAvailable : String → Int → Bool) :
    Except AllocationError Fields × RuntimePortAllocator :=
  match launchRequest launchSpec with
  | .error e => (.error (.python e), a)
  | .ok none => (.ok launchSpec, a)
  | .ok (some request) =>
    match a.reserve runtimeId request.host request.requestedPort true isAvailable with
    | (.error e, a') => (.error e, a')
    | (.ok lease, a') =>
      match preparedSpec launchSpec request runtimeId lease.port with
      | .error e => (.error (.python e), a')
      | .ok prepared => (.ok prepared, a')

end Specs

/-! ## The port in a command -/

/-- The values a command gives for its port argument, read from left to right; `pending` tells that
the argument stands directly before. -/
def portValues (portArgument : String) (pending : Bool) : List PyValue → List PyValue
  | [] => if pending then [.none] else []
  | token :: rest =>
    if pending then token :: portValues portArgument false rest
    else if token = .str portArgument then portValues portArgument true rest
    else
      match tokenText token with
      | none => portValues portArgument false rest
      | some text =>
        if startsWith text (portArgument ++ "=") then
          .str (String.ofList (text.toList.drop (portArgument.length + 1))) ::
            portValues portArgument false rest
        else portValues portArgument false rest

theorem startsWith_append (start rest : String) : startsWith (start ++ rest) start = true := by
  rw [startsWith, String.toList_append]
  exact isPrefixOf_iff_prefix.mpr (prefix_append _ _)

/-- The value behind an argument. -/
theorem drop_valued (portArgument port : String) :
    String.ofList ((portArgument ++ "=" ++ port).toList.drop (portArgument.length + 1)) = port := by
  have hlength : (portArgument ++ "=").toList.length = portArgument.length + 1 := by
    rw [String.length_toList, String.length_append]
    rfl
  rw [String.toList_append, ← hlength, drop_left, String.ofList_toList]

/-- An argument with a value is no argument. -/
theorem valued_ne (portArgument port : String) :
    PyValue.str (portArgument ++ "=" ++ port) ≠ .str portArgument := by
  intro h
  have hlength := congrArg String.length (PyValue.str.inj h)
  rw [String.length_append, String.length_append] at hlength
  have hone : "=".length = 1 := rfl
  omega

/-- Replacing sets the first value, and the only one of a command without any. -/
theorem portValues_replaced {portArgument port : String} {command replaced : List PyValue}
    (h : replaceCommandPort portArgument port command = .ok replaced) :
    portValues portArgument false replaced =
      .str port :: (portValues portArgument false command).tail := by
  induction command generalizing replaced with
  | nil =>
    cases h
    simp [portValues]
  | cons token rest ih =>
    rw [replaceCommandPort] at h
    split at h
    · next htoken =>
      cases h
      cases rest with
      | nil | cons => simp [portValues, htoken]
    · next htoken =>
      split at h
      · cases h
      · next text htext =>
        split at h
        · next hstarts =>
          cases h
          have htexts : tokenText (.str (portArgument ++ "=" ++ port)) =
            some (portArgument ++ "=" ++ port) := rfl
          simp only [portValues, Bool.false_eq_true, if_false, if_neg (valued_ne portArgument port),
            htexts, startsWith_append, if_true, drop_valued, if_neg htoken, htext, if_pos hstarts,
            tail_cons]
        · next hstarts =>
          obtain ⟨replaced, hreplaced, heq⟩ := bind_eq_ok.mp h
          obtain rfl := pure_eq_ok.mp heq
          simp only [portValues, Bool.false_eq_true, if_false, if_neg htoken, htext, if_neg hstarts]
          exact ih hreplaced

/-! ## The port in an endpoint -/

variable {mark c : Char} {before after host : List Char} {parsed : SplitResult} {port : ℕ}

theorem afterLast_append (hafter : mark ∉ after)
    (hbefore : before = [] ∨ before.getLast? = some mark) :
    afterLast mark (before ++ after) = after := by
  have hkeep : ∀ c ∈ after.reverse, decide (c ≠ mark) = true := by
    intro c hc
    rw [decide_eq_true_eq]
    rintro rfl
    exact hafter (mem_reverse.mp hc)
  have hstop : before.reverse.takeWhile (· ≠ mark) = [] := by
    rcases hbefore with rfl | hlast
    · rfl
    · obtain ⟨rest, rfl⟩ := getLast?_eq_some_iff.mp hlast
      simp
  rw [afterLast, reverse_append, takeWhile_append_of_pos hkeep, hstop, append_nil,
    reverse_reverse]

theorem getLast_userinfo (parsed : SplitResult) :
    userinfo parsed = [] ∨ (userinfo parsed).getLast? = some '@' := by
  unfold userinfo
  split
  · exact .inr (by simp)
  · exact .inl rfl

/-- The characters of a userinfo stand in the network location. -/
theorem mem_userinfo (h : c ∈ userinfo parsed) : c ∈ parsed.netloc ∨ c = ':' ∨ c = '@' := by
  have hbefore : ∀ {d : Char}, d ∈ beforeLast '@' parsed.netloc → d ∈ parsed.netloc := by
    intro d hd
    exact mem_reverse.mp (mem_of_mem_dropWhile (mem_of_mem_drop (mem_reverse.mp hd)))
  unfold userinfo at h
  split at h
  · simp only [mem_append, mem_singleton] at h
    rcases h with (h | h) | rfl
    · unfold SplitResult.username at h
      split at h
      · exact .inl (hbefore (mem_of_mem_partitionAt (.inl h)))
      · cases h
    · unfold SplitResult.password at h
      split at h
      · next password hpassword =>
        split at hpassword
        · cases hpassword
          rcases mem_cons.mp h with rfl | h
          · exact .inr (.inl rfl)
          · exact .inl (hbefore (mem_of_mem_partitionAt (.inr h)))
        · cases hpassword
      · cases h
    · exact .inr (.inr rfl)
  · cases h

theorem partitionAt_append {mark : Char → Bool} (hbefore : before.all (!mark ·) = true)
    (hc : mark c = true) : partitionAt mark (before ++ c :: after) = (before, after) := by
  have hkeep := all_eq_true.mp hbefore
  rw [partitionAt, takeWhile_append_of_pos hkeep, dropWhile_append_of_pos hkeep,
    takeWhile_cons_of_neg (by simp [hc]), dropWhile_cons_of_neg (by simp [hc]),
    append_nil]
  rfl

/-- The digits of a port. -/
theorem toList_port (port : ℕ) : (toString (port : Int)).toList = Nat.toDigits 10 port :=
  Nat.toList_repr

theorem isDigit_of_mem_port (h : c ∈ Nat.toDigits 10 port) :
    c.isDigit = true := Nat.isDigit_of_mem_toDigits (by decide) (by decide) h

/-- A digit is none of the marks of a URL. -/
theorem ne_of_isDigit (h : c.isDigit = true) (hmark : mark.isDigit = false) : c ≠ mark := by
  rintro rfl
  rw [h] at hmark
  cases hmark

/-- The local hosts as they stand in front of a port. -/
theorem hostPart_cases (hhost : parsed.hostname = some host)
    (hlocal : String.ofList host ∈ localHosts) :
    hostPart parsed ∈ ["127.0.0.1".toList, "localhost".toList, "0.0.0.0".toList, "[::1]".toList,
      "[::]".toList] := by
  have hcases : host ∈ localHosts.map String.toList := by
    obtain ⟨text, htext⟩ : ∃ text, text = String.ofList host := ⟨_, rfl⟩
    rw [← htext] at hlocal
    exact mem_map.mpr ⟨text, hlocal, by rw [htext, String.toList_ofList]⟩
  rw [hostPart, hhost]
  simp only [localHosts, map_cons, map_nil, mem_cons, not_mem_nil,
    or_false] at hcases
  rcases hcases with rfl | rfl | rfl | rfl | rfl <;> decide

/-- The host and the port of a location are told apart. -/
theorem hostinfo_of_info {r : SplitResult} {digits : List Char}
    (hinfo : afterLast '@' r.netloc = host ++ ':' :: digits)
    (hhost : host ∈ ["127.0.0.1".toList, "localhost".toList, "0.0.0.0".toList, "[::1]".toList,
      "[::]".toList])
    (hdigits : ∀ c ∈ digits, c.isDigit = true) : r.hostinfo.2 = digits := by
  have hopen : digits.contains '[' = false := by
    rw [contains_eq_mem, decide_eq_false_iff_not]
    intro h
    exact ne_of_isDigit (hdigits _ h) (by decide) rfl
  rw [SplitResult.hostinfo, hinfo]
  simp only [mem_cons, not_mem_nil, or_false] at hhost
  rcases hhost with rfl | rfl | rfl | rfl | rfl
  all_goals
    have hcontains : ∀ host : List Char, (host ++ ':' :: digits).contains '[' =
        host.contains '[' := by
      intro host
      have hcolon : ((':' : Char) == '[') = false := by decide
      rw [contains_append, contains_cons, hopen, Bool.or_false]
      simp
    rw [hcontains]
  · rw [if_neg (by decide), partitionAt_append (by decide) (by decide)]
  · rw [if_neg (by decide), partitionAt_append (by decide) (by decide)]
  · rw [if_neg (by decide), partitionAt_append (by decide) (by decide)]
  · rw [if_pos (by decide)]
    rfl
  · rw [if_pos (by decide)]
    rfl

/-- The port is read from a network location that ends with it. -/
theorem port_of_netloc {r : SplitResult} {user host : List Char} {port : ℕ}
    (hnetloc : r.netloc = user ++ (host ++ ':' :: Nat.toDigits 10 port))
    (huser : user = [] ∨ user.getLast? = some '@')
    (hhost : host ∈ ["127.0.0.1".toList, "localhost".toList, "0.0.0.0".toList, "[::1]".toList,
      "[::]".toList]) (hport : port ≤ 65535) : r.port = .ok (some port) := by
  have hdigit : ∀ c ∈ Nat.toDigits 10 port, c.isDigit = true := fun c => isDigit_of_mem_port
  have hhosts : '@' ∉ host := by
    simp only [mem_cons, not_mem_nil, or_false] at hhost
    rcases hhost with rfl | rfl | rfl | rfl | rfl <;> decide
  have hat : '@' ∉ host ++ ':' :: Nat.toDigits 10 port := by
    intro h
    rcases mem_append.mp h with h | h
    · exact hhosts h
    · rcases mem_cons.mp h with h | h
      · cases h
      · exact ne_of_isDigit (hdigit _ h) (by decide) rfl
  have hinfo : r.hostinfo.2 = Nat.toDigits 10 port :=
    hostinfo_of_info (by rw [hnetloc, afterLast_append hat huser]) hhost hdigit
  have hne : Nat.toDigits 10 port ≠ [] := Nat.toDigits_ne_nil
  have hvalue : Nat.ofDigitChars 10 (Nat.toDigits 10 port) 0 = port :=
    Nat.ofDigitChars_ten_toDigits
  rw [SplitResult.port, hinfo, if_neg hne, if_pos (all_eq_true.mpr hdigit), hvalue,
    if_pos hport]

/-- A replaced endpoint reads as the port that was written into it. -/
theorem port_replaceEndpointPort {url : List Char}
    (hscheme : (splitUrl url).scheme ∈ ["http".toList, "https".toList])
    (hhost : (splitUrl url).hostname = some host) (hlocal : String.ofList host ∈ localHosts)
    (hport : port ≤ 65535) :
    (splitUrl (replaceEndpointPort (splitUrl url) port).toList).port = .ok (some port) := by
  have hcases := hostPart_cases hhost hlocal
  obtain ⟨written, hwritten⟩ : ∃ r : SplitResult, r = { splitUrl url with
      netloc := userinfo (splitUrl url) ++ hostPart (splitUrl url) ++
        ':' :: (toString (port : Int)).toList } := ⟨_, rfl⟩
  -- the characters of the new location are plain ones or stood in the old one
  have hchars : ∀ c ∈ written.netloc, c ∈ (splitUrl url).netloc ∨
      endsNetloc c = false ∧ isUnsafe c = false := by
    intro c hc
    rw [hwritten] at hc
    simp only [mem_append, mem_cons, toList_port] at hc
    rcases hc with (hc | hc) | rfl | hc
    · rcases mem_userinfo hc with hc | rfl | rfl
      · exact .inl hc
      · exact .inr (by decide)
      · exact .inr (by decide)
    · have hall : (["127.0.0.1".toList, "localhost".toList, "0.0.0.0".toList, "[::1]".toList,
          "[::]".toList].all fun host => host.all fun c =>
            !endsNetloc c && !isUnsafe c) = true := by
        decide
      have hhost := all_eq_true.mp (all_eq_true.mp hall _ hcases) c hc
      rw [Bool.and_eq_true, Bool.not_eq_true', Bool.not_eq_true'] at hhost
      exact .inr hhost
    · exact .inr (by decide)
    · have hdigit := isDigit_of_mem_port hc
      have hne : ∀ {mark : Char}, mark.isDigit = false → decide (c = mark) = false :=
        fun hmark => decide_eq_false (ne_of_isDigit hdigit hmark)
      refine .inr ⟨?_, ?_⟩
      · rw [endsNetloc, hne (by decide), hne (by decide), hne (by decide)]
        rfl
      · rw [isUnsafe, hne (by decide), hne (by decide), hne (by decide)]
        rfl
  have hjoinable : written.Joinable := by
    constructor
    · rw [hwritten]
      simp only [mem_cons, not_mem_nil, or_false] at hscheme
      rcases hscheme with h | h <;> rw [h] <;> decide
    · rw [hwritten]
      simp only [mem_cons, not_mem_nil, or_false] at hscheme
      rcases hscheme with h | h <;> rw [h] <;> decide
    · intro c hc
      rcases hchars c hc with h | h
      · exact not_endsNetloc_of_mem h
      · exact h.1
    · intro c hc
      have hparts : c ∈ (splitUrl url).netloc ++ (splitUrl url).path ++ (splitUrl url).query ++
          (splitUrl url).fragment ∨ isUnsafe c = false := by
        simp only [mem_append] at hc ⊢
        rcases hc with ((hc | hc) | hc) | hc
        · rcases hchars c hc with h | h
          · exact .inl (.inl (.inl (.inl h)))
          · exact .inr h.2
        all_goals
          rw [hwritten] at hc
          simp only [hc, true_or, or_true]
      rcases hparts with h | h
      · exact not_isUnsafe_of_mem h
      · exact h
  refine @port_of_netloc _ (userinfo (splitUrl url)) (hostPart (splitUrl url)) port ?_ ?_ ?_ ?_
  · rw [replaceEndpointPort, String.toList_ofList, ← hwritten, netloc_splitUrl hjoinable, hwritten,
      toList_port, append_assoc]
  · exact getLast_userinfo _
  · exact hcases
  · exact hport

end AidnSpec.Node
