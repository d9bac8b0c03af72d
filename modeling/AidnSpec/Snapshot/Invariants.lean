import AidnSpec.Snapshot.Staging

/-!
# Invariants of a restored state

`InvariantChecker` of `snapshot/verification.py`. The records it reads are not typed: an amount that
cannot be compared with a number raises, and so does a record that is no dictionary where one is
needed.
-/

namespace AidnSpec.Snapshot

open Base

/-! ## Numbers -/

/-- A number with the infinities. -/
inductive Extended where
  | negInf
  | finite (q : ℚ)
  | posInf
  | nan

/-- `a < b`. -/
def Extended.lt : Extended → Extended → Bool
  | .nan, _ => false
  | _, .nan => false
  | .finite p, .finite q => p < q
  | .negInf, .negInf => false
  | .negInf, _ => true
  | .finite _, .posInf => true
  | _, _ => false

def extended? : PyValue → Option Extended
  | .nonFinite text =>
    some (if text = "Infinity" then .posInf else if text = "-Infinity" then .negInf else .nan)
  | value => value.number?.map .finite

mutual
/-- `a < b`: numbers by value, texts and lists in lexicographic order. -/
def pyLt : PyValue → PyValue → Except PyError Bool
  | .str a, .str b => .ok (a < b)
  | .list as, .list bs => pyLtItems as bs
  | a, b =>
    match extended? a, extended? b with
    | some p, some q => .ok (p.lt q)
    | _, _ => raiseType "'<' not supported between instances"
/-- The lexicographic order of two lists. -/
def pyLtItems : List PyValue → List PyValue → Except PyError Bool
  | [], bs => .ok !bs.isEmpty
  | _ :: _, [] => .ok false
  | a :: as, b :: bs => if a.eqv b then pyLtItems as bs else pyLt a b
end

/-- Sums of floats. -/
class FloatSum where
  add : PyValue → PyValue → PyValue
  total : List PyValue → PyValue

/-- The integer a value is in a sum. -/
def intOf? : PyValue → Option Int
  | .int n => some n
  | .bool b => some (if b then 1 else 0)
  | _ => none

/-- `a + b`. -/
def plus [FloatSum] (a b : PyValue) : Except PyError PyValue :=
  match intOf? a, intOf? b with
  | some m, some n => .ok (.int (m + n))
  | _, _ =>
    match a, b with
    | .str s, .str t => .ok (.str (s ++ t))
    | .list as, .list bs => .ok (.list (as ++ bs))
    | a, b =>
      if (extended? a).isSome && (extended? b).isSome then .ok (FloatSum.add a b)
      else raiseType "unsupported operand type(s) for +"

/-- `sum(terms)`. -/
def sumOf [FloatSum] (terms : List PyValue) : Except PyError PyValue :=
  match terms.mapM intOf? with
  | some ints => .ok (.int ints.sum)
  | none =>
    if terms.all fun term => (extended? term).isSome then .ok (FloatSum.total terms)
    else raiseType "unsupported operand type(s) for +"

/-! ## The checks -/

variable [Conversions]

/-- `record.get(key, default)`, which raises when the record is no dictionary. -/
def getOr (record : PyValue) (key : String) (default : PyValue) : Except PyError PyValue :=
  match record with
  | .dict members => .ok ((members.lookup key).getD default)
  | _ => .error ⟨.attribute, "object has no attribute 'get'"⟩

/-- `record.get("id", "?")` as text. -/
def nameOf (record : PyValue) : Except PyError String := do
  let id ← getOr record "id" (.str "?")
  return Conversions.str id

/-- A complaint about a field of a record that is negative. -/
def negativeField (record : PyValue) (field : String) (complaint : String → String → String) :
    Except PyError (List String) := do
  let value ← getOr record field (.int 0)
  let negative ← pyLt value (.int 0)
  let name ← nameOf record
  return if negative then [complaint name (Conversions.str value)] else []

def complaints (records : List PyValue) (check : PyValue → Except PyError (List String)) :
    Except PyError (List String) := do
  let found ← records.mapM check
  return found.flatten

/-- `_get_wallet_list`. -/
def walletList (s : StagingStateStore) : Except PyError (List PyValue) :=
  match s.getNamespace "wallets" with
  | some (.list items) => .ok items
  | some (.dict members) => members.mapM fun member =>
    match member.2 with
    | .dict fields => .ok (.dict (fields.foldl (fun wallet field => Dict.put field.1 field.2 wallet)
        [("id", .str member.1)]))
    | _ => raiseType "argument after ** must be a mapping"
  | _ => .ok []

def checkBalances (wallets : List PyValue) : Except PyError (List String) :=
  complaints wallets fun w => do
    let balance ← negativeField w "balance" fun name value =>
      s!"Wallet {name} has negative balance: {value}"
    let locked ← negativeField w "locked" fun name value =>
      s!"Wallet {name} has negative locked: {value}"
    return balance ++ locked

def checkSupplyConservation [FloatSum] (s : StagingStateStore) (wallets : List PyValue) :
    Except PyError (List String) :=
  match s.getNamespace "protocol_parameters" with
  | some (.dict params) =>
    match PyValue.get params "total_supply" with
    | .none => .ok []
    | totalSupply => do
      let terms ← wallets.mapM fun w => do
        let balance ← getOr w "balance" (.int 0)
        let locked ← getOr w "locked" (.int 0)
        plus balance locked
      let actual ← sumOf terms
      return if actual.eqv totalSupply then [] else
        [s!"Supply conservation violated: actual {Conversions.str actual}" ++
          s!" != declared {Conversions.str totalSupply}"]
  | _ => .ok []

/-- The records of a namespace that is a list. -/
def listedRecords (s : StagingStateStore) (ns : String) : List PyValue :=
  match s.getNamespace ns with
  | some (.list items) => items
  | _ => []

def isRecord : PyValue → Bool
  | .dict _ => true
  | _ => false

def checkSessions (s : StagingStateStore) : Except PyError (List String) :=
  complaints ((listedRecords s "sessions").filter isRecord) fun record => do
    let deposit ← getOr record "deposit" (.int 0)
    let distributed ← getOr record "distributed" (.int 0)
    let exceeds ← pyLt deposit distributed
    let name ← nameOf record
    return if exceeds then [s!"Session {name} distributed {Conversions.str distributed}" ++
      s!" > deposit {Conversions.str deposit}"] else []

def checkStakesBonds (s : StagingStateStore) : Except PyError (List String) := do
  let found ← ["stakes", "bonds"].mapM fun ns =>
    complaints ((listedRecords s ns).filter isRecord) fun item =>
      negativeField item "amount" fun name value =>
        s!"{ns} item {name} has negative amount: {value}"
  return found.flatten

/-- `_check_wallet_sequences`: a sequence that is no integer is not looked at. -/
def checkWalletSequences (wallets : List PyValue) : Except PyError (List String) :=
  complaints wallets fun w => do
    let seq ← getOr w "seq" (.int 0)
    let name ← nameOf w
    return match intOf? seq with
      | some n => if n < 0 then [s!"Wallet {name} has negative seq: {Conversions.str seq}"] else []
      | none => []

/-- `value in seen`, which raises for an unhashable value. -/
def seenIn (seen : List PyValue) (value : PyValue) : Except PyError Bool :=
  match value with
  | .list _ => raiseType "unhashable type: 'list'"
  | .dict _ => raiseType "unhashable type: 'dict'"
  | value => .ok (seen.any fun other => other.eqv value)

/-- The loop of `check_uniqueness`. -/
def checkUniquenessFrom : List PyValue → (seen : List PyValue) → Except PyError (List String)
  | [], _ => .ok []
  | item :: rest, seen =>
    match (membersOf item).lookup "id" with
    | none => checkUniquenessFrom rest seen
    | some id => do
      let duplicate ← seenIn seen id
      let others ← checkUniquenessFrom rest (id :: seen)
      return (if duplicate then [s!"Duplicate ID {Conversions.str id}"] else []) ++ others

def checkUniquenessAll (s : StagingStateStore) : Except PyError (List String) := do
  let found ← s.namespaces.mapM fun member => do
    let duplicates ← checkUniquenessFrom (listedRecords s member.1) []
    return duplicates.map fun v => s!"[{member.1}] {v}"
  return found.flatten

/-- The loop of `_check_evidence`. -/
def checkEvidenceFrom : List PyValue → (seenConsumed : List PyValue) →
    Except PyError (List String)
  | [], _ => .ok []
  | ev :: rest, seen =>
    if (PyValue.get (membersOf ev) "consumed").truthy then do
      let id := PyValue.get (membersOf ev) "id"
      let duplicate ← seenIn seen id
      let others ← checkEvidenceFrom rest (id :: seen)
      return (if duplicate then [s!"Consumed evidence {Conversions.str id} duplicated"] else []) ++
        others
    else checkEvidenceFrom rest seen

def checkProtocolParams (s : StagingStateStore) : List String :=
  match s.getNamespace "protocol_parameters" with
  | some (.dict params) =>
    if (params.lookup "version").isSome then []
    else ["protocol_parameters missing version field"]
  | _ => []

structure InvariantCheckResult where
  valid : Bool
  checksPerformed : ℕ
  checksPassed : ℕ
  violations : List String

def checkAll [FloatSum] (s : StagingStateStore) : Except PyError InvariantCheckResult := do
  let wallets ← walletList s
  let balances ← checkBalances wallets
  let supply ← checkSupplyConservation s wallets
  let sessions ← checkSessions s
  let stakes ← checkStakesBonds s
  let sequences ← checkWalletSequences wallets
  let unique ← checkUniquenessAll s
  let evidence ← checkEvidenceFrom (listedRecords s "evidence") []
  let found := [balances, supply, sessions, stakes, sequences, unique, evidence,
    checkProtocolParams s]
  return {
    valid := found.flatten.isEmpty
    checksPerformed := found.length
    checksPassed := found.countP (·.isEmpty)
    violations := found.flatten }

end AidnSpec.Snapshot
