import AidnSpec.Base.Dict

/-!
# The validation bond manager

`validation_bond/models.py`, `store.py` and `manager.py`. The clock readings and the random
identifiers a call draws are arguments of the call; the digest is a parameter.
-/

namespace AidnSpec.Bonds

open Base

/-! ## Records -/

def validationBondQAtoms : Int := 500000000

inductive BondStatus where
  | locked
  | active
  | recovering
  | forfeited
  | recovered
  deriving DecidableEq

inductive BondEventType where
  | lock
  | activate
  | recover
  | forfeit
  | refund
  deriving DecidableEq

structure BondRecoveryRecord where
  recoveryId : String
  bondId : String
  recoveryAmount : Int
  remainingAfter : Int
  stepNumber : ℕ
  epoch : Int
  timestamp : String
  deriving DecidableEq

structure BondForfeitRecord where
  forfeitId : String
  bondId : String
  forfeitedAmount : Int
  reason : String
  epoch : Int
  timestamp : String
  deriving DecidableEq

/-- `BondEvent`; no event carries metadata. -/
structure BondEvent where
  eventId : String
  bondId : String
  eventType : BondEventType
  amountDelta : Int
  epoch : Int
  timestamp : String
  deriving DecidableEq

structure ValidationBond where
  bondId : String
  endpointId : String
  operatorWallet : String
  initialAmount : Int := validationBondQAtoms
  remainingAmount : Int := validationBondQAtoms
  status : BondStatus := .locked
  createdAt : String
  recoveryCount : ℕ := 0
  recoveryRecords : List BondRecoveryRecord := []
  forfeitRecords : List BondForfeitRecord := []
  events : List BondEvent := []
  deriving DecidableEq

inductive BondManagerError where
  | notFound (text : String)
  | insufficientFunds (text : String)
  | invalidTransition (text : String)

/-- What a call draws: readings of the clock and `uuid4` texts, in the order of the source. -/
structure Draws where
  now : ℕ → String
  uuid : ℕ → String

def BondStatus.text : BondStatus → String
  | .locked => "BondStatus.LOCKED"
  | .active => "BondStatus.ACTIVE"
  | .recovering => "BondStatus.RECOVERING"
  | .forfeited => "BondStatus.FORFEITED"
  | .recovered => "BondStatus.RECOVERED"

section Identifiers

variable (sha256 : String → String)

/-- `_make_id` and `_event_id`. -/
def makeId (bondId action uuid : String) : String :=
  String.ofList ((sha256 s!"evt:{bondId}:{action}:{uuid}").toList.take 16)

def generateBondId (endpointId wallet uuid : String) : String :=
  String.ofList ((sha256 s!"bond:{endpointId}:{wallet}:{uuid}").toList.take 16)

end Identifiers

namespace ValidationBond

variable (b : ValidationBond)

def forfeitedTotal : Int := (b.forfeitRecords.map (·.forfeitedAmount)).sum

def recoveredTotal : Int := (b.recoveryRecords.map (·.recoveryAmount)).sum

def isActive : Bool := b.status == .active || b.status == .recovering

def isTerminal : Bool := b.status == .forfeited || b.status == .recovered

variable (sha256 : String → String) (draws : Draws)

def activate : Except String ValidationBond :=
  if b.status ≠ .locked then .error s!"Cannot activate bond in status {b.status.text}"
  else .ok { b with
    status := .active
    events := b.events ++ [{
      eventId := makeId sha256 b.bondId "activate" (draws.uuid 0)
      bondId := b.bondId
      eventType := .activate
      amountDelta := 0
      epoch := 0
      timestamp := draws.now 0 }] }

def startRecovery : Except String ValidationBond :=
  if b.status ≠ .active ∧ b.status ≠ .recovering then
    .error s!"Cannot start recovery from status {b.status.text}"
  else .ok { b with status := .recovering }

end ValidationBond

/-! ## The store -/

structure BondStore where
  bonds : Dict String ValidationBond := .empty
  byEndpoint : Dict String String := .empty
  byWallet : Dict String (List String) := .empty

namespace BondStore

variable (s : BondStore)

def get (bondId : String) : Option ValidationBond := s.bonds.get? bondId

def getForEndpoint (endpointId : String) : Option ValidationBond :=
  match s.byEndpoint.get? endpointId with
  | some bondId => s.bonds.get? bondId
  | none => none

def hasEndpointBond (endpointId : String) : Bool := s.byEndpoint.contains endpointId

def walletIndexed (bond : ValidationBond) : Dict String (List String) :=
  let ids := (s.byWallet.get? bond.operatorWallet).getD []
  s.byWallet.set bond.operatorWallet
    (if bond.bondId ∈ ids then ids else ids ++ [bond.bondId])

def upsert (bond : ValidationBond) : BondStore :=
  match s.bonds.get? bond.bondId with
  | some existing =>
    { s with
      bonds := s.bonds.set bond.bondId bond
      byEndpoint :=
        (if existing.endpointId ≠ bond.endpointId then s.byEndpoint.erase bond.endpointId
          else s.byEndpoint).set bond.endpointId bond.bondId }
  | none =>
    { bonds := s.bonds.set bond.bondId bond
      byEndpoint := s.byEndpoint.set bond.endpointId bond.bondId
      byWallet := s.walletIndexed bond }

/-- The bonds after `upsert`. -/
@[simp] theorem get_upsert (bond : ValidationBond) (id : String) :
    (s.upsert bond).get id = if id = bond.bondId then some bond else s.get id := by
  unfold upsert get
  split <;> exact Dict.get?_set ..

/-- The endpoint index after `upsert`. -/
@[simp] theorem byEndpoint_upsert (bond : ValidationBond) (endpoint : String) :
    (s.upsert bond).byEndpoint.get? endpoint =
      if endpoint = bond.endpointId then some bond.bondId else s.byEndpoint.get? endpoint := by
  unfold upsert
  split
  · rw [Dict.get?_set]
    by_cases h : endpoint = bond.endpointId
    · simp only [h, if_true]
    · simp only [h, if_false]
      split_ifs
      · rw [Dict.get?_erase, if_neg h]
      · rfl
  · exact Dict.get?_set ..

/-! ## The manager -/

variable (sha256 : String → String) (draws : Draws)

def getBond (bondId : String) : Except BondManagerError ValidationBond :=
  match s.get bondId with
  | some bond => .ok bond
  | none => .error (.notFound s!"Bond {bondId} not found")

/-- `amount or self._min_bond`. -/
def bondAmount (amount : Option Int) : Int :=
  match amount with
  | some n => if n = 0 then validationBondQAtoms else n
  | none => validationBondQAtoms

def lockBond (endpointId operatorWallet : String) (amount : Option Int) (epoch : Int) :
    Except BondManagerError (ValidationBond × BondStore) :=
  let amount := bondAmount amount
  if amount < validationBondQAtoms then
    .error (.insufficientFunds s!"Bond amount {amount} below minimum {validationBondQAtoms}")
  else if s.hasEndpointBond endpointId &&
      (s.getForEndpoint endpointId).any (!·.isTerminal) then
    .error (.invalidTransition s!"Endpoint {endpointId} already has an active bond")
  else
    let bondId := generateBondId sha256 endpointId operatorWallet (draws.uuid 0)
    let bond : ValidationBond :=
      { bondId
        endpointId
        operatorWallet
        initialAmount := amount
        remainingAmount := amount
        status := .locked
        createdAt := draws.now 0
        events := [{
          eventId := makeId sha256 bondId "lock" (draws.uuid 1)
          bondId
          eventType := .lock
          amountDelta := amount
          epoch
          timestamp := draws.now 0 }] }
    .ok (bond, s.upsert bond)

def activateBond (bondId : String) (epoch : Int) :
    Except BondManagerError (ValidationBond × BondStore) :=
  match s.getBond bondId with
  | .error e => .error e
  | .ok bond =>
    match bond.activate sha256 draws with
    | .error text => .error (.invalidTransition text)
    | .ok activated =>
      let bond : ValidationBond := { activated with
        events := activated.events ++ [{
          eventId := makeId sha256 bondId "activate" (draws.uuid 1)
          bondId
          eventType := .activate
          amountDelta := 0
          epoch
          timestamp := draws.now 1 }] }
      .ok (bond, s.upsert bond)

/-- What a step of the decay releases: half of the remaining amount, or all of it when the half
rounds to zero. -/
def recoveryAmount (remaining : Int) : Int :=
  if remaining / 2 = 0 ∧ 0 < remaining then remaining else remaining / 2

/-- The step of `recover_step` on a bond in recovery. -/
def recovered (bond : ValidationBond) (epoch : Int) : ValidationBond :=
  let amount := recoveryAmount bond.remainingAmount
  let remaining := bond.remainingAmount - amount
  let count := bond.recoveryCount + 1
  { bond with
    remainingAmount := remaining
    recoveryCount := count
    recoveryRecords := bond.recoveryRecords ++ [{
      recoveryId := makeId sha256 bond.bondId s!"recover_{count}" (draws.uuid 0)
      bondId := bond.bondId
      recoveryAmount := amount
      remainingAfter := remaining
      stepNumber := count
      epoch
      timestamp := draws.now 0 }]
    events := bond.events ++ [{
      eventId := makeId sha256 bond.bondId s!"recover_{count}" (draws.uuid 1)
      bondId := bond.bondId
      eventType := .recover
      amountDelta := -amount
      epoch
      timestamp := draws.now 0 }]
    status := if remaining = 0 then .recovered else bond.status }

def recoverStep (bondId : String) (epoch : Int) :
    Except BondManagerError (ValidationBond × BondStore) :=
  match s.getBond bondId with
  | .error e => .error e
  | .ok bond =>
    if bond.status ≠ .active ∧ bond.status ≠ .recovering then
      .error (.invalidTransition s!"Cannot recover bond in status {bond.status.text}")
    else if bond.remainingAmount = 0 then
      .error (.invalidTransition "No remaining amount to recover")
    else
      match if bond.status = .active then bond.startRecovery else .ok bond with
      | .error text => .error (.invalidTransition text)
      | .ok started =>
        let bond := recovered sha256 draws started epoch
        .ok (bond, s.upsert bond)

def forfeitBond (bondId : String) (reason : String) (epoch : Int) :
    Except BondManagerError (ValidationBond × BondStore) :=
  match s.getBond bondId with
  | .error e => .error e
  | .ok bond =>
    if bond.status = .forfeited then .error (.invalidTransition "Bond already forfeited")
    else
      -- The remaining amount goes into the record and the event and stays in the bond.
      let forfeited : ValidationBond := { bond with
        status := .forfeited
        forfeitRecords := bond.forfeitRecords ++ [{
          forfeitId := makeId sha256 bondId "forfeit" (draws.uuid 0)
          bondId
          forfeitedAmount := bond.remainingAmount
          reason
          epoch
          timestamp := draws.now 0 }]
        events := bond.events ++ [{
          eventId := makeId sha256 bondId "forfeit" (draws.uuid 1)
          bondId
          eventType := .forfeit
          amountDelta := -bond.remainingAmount
          epoch
          timestamp := draws.now 0 }] }
      .ok (forfeited, s.upsert forfeited)

def refundBond (bondId : String) (epoch : Int) :
    Except BondManagerError (ValidationBond × BondStore) :=
  match s.getBond bondId with
  | .error e => .error e
  | .ok bond =>
    if !bond.isTerminal then
      .error (.invalidTransition s!"Cannot refund bond in status {bond.status.text}")
    else
      let refunded : ValidationBond := { bond with
        events := bond.events ++ [{
          eventId := makeId sha256 bondId "refund" (draws.uuid 0)
          bondId
          eventType := .refund
          amountDelta := -bond.remainingAmount
          epoch
          timestamp := draws.now 0 }] }
      .ok (refunded, s.upsert refunded)

end BondStore

/-! ## Calls -/

inductive BondCall where
  | lock (endpointId operatorWallet : String) (amount : Option Int) (epoch : Int)
  | activate (bondId : String) (epoch : Int)
  | recover (bondId : String) (epoch : Int)
  | forfeit (bondId reason : String) (epoch : Int)
  | refund (bondId : String) (epoch : Int)

variable (sha256 : String → String)

def BondCall.answer (s : BondStore) (draws : Draws) :
    BondCall → Except BondManagerError (ValidationBond × BondStore)
  | .lock endpointId operatorWallet amount epoch =>
    s.lockBond sha256 draws endpointId operatorWallet amount epoch
  | .activate bondId epoch => s.activateBond sha256 draws bondId epoch
  | .recover bondId epoch => s.recoverStep sha256 draws bondId epoch
  | .forfeit bondId reason epoch => s.forfeitBond sha256 draws bondId reason epoch
  | .refund bondId epoch => s.refundBond sha256 draws bondId epoch

def callStep (s : BondStore) (c : Draws × BondCall) : BondStore :=
  match c.2.answer sha256 s c.1 with
  | .ok (_, s') => s'
  | .error _ => s

end AidnSpec.Bonds
