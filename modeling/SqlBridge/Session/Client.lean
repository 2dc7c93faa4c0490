import SqlBridge.Session.Call
import SqlBridge.Update.Execute

/-!
# Clients

A client has one connection, and any number of statements on it.  It goes on
with any of them at any time, prepares others in between, and has updates
executed, whose statements it never gets to see.
-/

set_option autoImplicit false

namespace SqlBridge

structure Client (σ : Type) where
  statements : List Statement := []
  session : Session σ

namespace Client

inductive Call where
  | prepare (sql : String) (options : PrepareOptions)
  /-- A call on the statement that was opened at a position. -/
  | onStatement (position : Nat) (call : Statement.Call)
  | update (query : Update)

variable {σ : Type} (engine : Engine σ)

namespace Call

/-- A refused preparation opens no statement, and where none was opened there is nothing to call. -/
def step : Call → Client σ → Client σ
  | .prepare sql options, client =>
    match (Statement.prepare engine sql options).run client.session with
    | (.ok statement, later) => ⟨client.statements ++ [statement], later⟩
    | (.error _, later) => ⟨client.statements, later⟩
  | .onStatement position call, client =>
    match client.statements[position]? with
    | none => client
    | some statement =>
      let (statement, later) := ((call.step engine).run (statement, client.session)).2
      ⟨client.statements.set position statement, later⟩
  | .update query, client =>
    ⟨client.statements, ((query.execute engine).run client.session).2⟩

end Call

/-- What calls make of a client, one after the other. -/
def after : List Call → Client σ → Client σ
  | [], client => client
  | call :: rest, client => after rest (call.step engine client)

end Client

end SqlBridge
