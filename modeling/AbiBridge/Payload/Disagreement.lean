import AbiBridge.Payload.Basic

/-!
# Checking payloads against the native library

A payload is compared with what the native shim says about its size and alignment
and about those of its fields. Every disagreement is listed.
-/

namespace AbiBridge

/-- The answers of a native shim. They are zero for what it does not know. -/
structure ShimAnswers where
  size : Int → Nat
  align : Int → Nat
  fieldSize : Int → Nat → Nat
  fieldAlign : Int → Nat → Nat

inductive Disagreement where
  | unknown (payload : String)
  | size (payload : String) (declared native : Nat)
  | align (payload : String) (declared native : Nat)
  | fieldSize (payload field : String) (declared native : Nat)
  | fieldAlign (payload field : String) (declared native : Nat)
  deriving DecidableEq, Repr

namespace Disagreement

def comparison (subject what : String) (declared native : Nat) : String :=
  subject ++ ": " ++ what ++ " is " ++ toString declared ++ ", native " ++ what ++ " is "
    ++ toString native

def message : Disagreement → String
  | unknown payload => payload ++ ": not known to the native shim"
  | size payload declared native => comparison payload "size" declared native
  | align payload declared native => comparison payload "alignment" declared native
  | fieldSize payload field declared native =>
    comparison (payload ++ "." ++ field) "size" declared native
  | fieldAlign payload field declared native =>
    comparison (payload ++ "." ++ field) "alignment" declared native

end Disagreement

namespace Payload

def unlessEqual (declared native : Nat) (discrepancy : Disagreement) : List Disagreement :=
  if native = declared then [] else [discrepancy]

/-- The disagreements about the field at position `index` of the table. -/
def checkField (payload : Payload) (shim : ShimAnswers) (span : FieldExtent) (index : Nat) :
    List Disagreement :=
  let size := shim.fieldSize payload.id index
  unlessEqual span.size size (.fieldSize payload.name span.name span.size size) ++
    match span.align with
    | none => []
    | some declared =>
      let align := shim.fieldAlign payload.id index
      unlessEqual declared align (.fieldAlign payload.name span.name declared align)

def checkWhole (payload : Payload) (shim : ShimAnswers) : List Disagreement :=
  let size := shim.size payload.id
  let align := shim.align payload.id
  unlessEqual payload.size size (.size payload.name payload.size size)
    ++ unlessEqual payload.align align (.align payload.name payload.align align)

/-- All disagreements. Nothing is asked about a payload that the shim does not know. -/
def disagreements (payload : Payload) (shim : ShimAnswers) : List Disagreement :=
  if shim.size payload.id = 0 then [.unknown payload.name]
  else
    payload.checkWhole shim
      ++ payload.spans.zipIdx.flatMap fun (span, index) => payload.checkField shim span index

/-- The remark on a check of a known payload that found something. -/
def checkRemark? (payload : Payload) (shim : ShimAnswers) : Option String :=
  let found := payload.disagreements shim
  if shim.size payload.id = 0 ∨ found = [] then none
  else
    some ("[vbind] " ++ toString found.length ++ " layout discrepancies for " ++ payload.name)

end Payload

end AbiBridge
