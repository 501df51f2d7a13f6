import LC3.Proofs.Dialogue

/-! What a console has been asked and has replied since it was made, and the bytes that it has given
away by that. -/

namespace LC3

def received : Except Fault Byte → List Byte
  | .ok b => [b]
  | .error _ => []

namespace Exchange

def bytes : Exchange → List Byte
  | ⟨.readByte, reply⟩ => received reply
  | ⟨_, _⟩ => []

end Exchange

def delivered (past : List Exchange) : List Byte := past.flatMap Exchange.bytes

theorem delivered_snoc (past : List Exchange) (e : Exchange) :
    delivered (past ++ [e]) = delivered past ++ e.bytes := by simp [delivered]

/-- The failure of the host that a call reported, if it did. -/
def Exchange.failure? (e : Exchange) : Option HostError :=
  match e.error? with
  | some (.host error) => some error
  | _ => none

/-- All failures of the host that were reported, in order. -/
def reported (past : List Exchange) : List HostError := past.filterMap Exchange.failure?

theorem reported_snoc (past : List Exchange) (e : Exchange) :
    reported (past ++ [e]) = reported past ++ e.failure?.toList := by
  cases failure : e.failure? <;> simp [reported, failure]

/-- Any calls whatever, in any order, bring a console from where it started to where it is now. -/
inductive Console.History {C : Type} [Console C] (start : C) : List Exchange → C → Prop where
  | start : History start [] start
  | ask {past : List Exchange} {c c' : C} {q : Call} {reply : q.Reply}
      (before : History start past c) (answered : Console.answer q c = (reply, c')) :
    History start (past ++ [⟨q, reply⟩]) c'

end LC3
