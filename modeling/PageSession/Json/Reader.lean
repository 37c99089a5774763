import PageSession.Json.Token

/-!
# Reading a JSON value

The tokens of a text are put together by a stack of the arrays and objects
that are open.  At most 127 of them may be open at once, and the first token
out of place decides the defect.  The same assembly, without the limit and with
tokens that are only skipped, tells where a value ends that nobody reads.
-/

namespace PageSession

namespace Json

/-- An array or object that is still open. -/
inductive Frame where
  /-- The items of an array so far, in reverse. -/
  | items (reversed : List Value)
  /-- The members of an object so far, and the key of the next one. -/
  | members (done : Members) (key : String)

/-- What may come next, with the arrays and objects around it. -/
inductive Assembly where
  | awaitValue (stack : List Frame)
  | awaitFirstItem (stack : List Frame)
  | awaitFirstKey (stack : List Frame)
  | awaitKey (stack : List Frame) (done : Members)
  | awaitColon (stack : List Frame) (done : Members) (key : String)
  | afterItem (stack : List Frame) (reversed : List Value)
  | afterMember (stack : List Frame) (done : Members)
  | complete (value : Value)

namespace Assembly

/-- How many arrays and objects may be open at once in a value that is read. -/
def depthLimit : Nat := 127

/-- Whether one more may be opened inside of the given ones. -/
def hasRoom (limit : Option Nat) (stack : List Frame) : Bool :=
  match limit with
  | some depth => stack.length < depth
  | none => true

/-- Put a finished value where it belongs. -/
def deliver (value : Value) : List Frame → Assembly
  | [] => .complete value
  | .items reversed :: stack => .afterItem stack (value :: reversed)
  | .members done key :: stack => .afterMember stack (Members.insert key value done)

/-- The first token of a value. -/
def beginValue (limit : Option Nat) (stack : List Frame) : Token → Except Defect Assembly
  | .word taken => taken.map (deliver · stack)
  | .number taken _ => taken.map fun number => deliver (.number number) stack
  | .quoted taken _ => taken.map fun text => deliver (.string text) stack
  | .openArray =>
      if hasRoom limit stack then .ok (.awaitFirstItem stack) else .error .misplaced
  | .openObject =>
      if hasRoom limit stack then .ok (.awaitFirstKey stack) else .error .misplaced
  | .closeArray | .closeObject | .colon | .comma | .stray => .error .misplaced

/-- The token where a key has to stand. -/
def takeKey (stack : List Frame) (done : Members) : Token → Except Defect Assembly
  | .quoted taken _ => taken.map fun text => .awaitColon stack done text
  | _ => .error .misplaced

/-- The next token. -/
def step (limit : Option Nat) : Assembly → Token → Except Defect Assembly
  | .awaitValue stack, token => beginValue limit stack token
  | .awaitFirstItem stack, .closeArray => .ok (deliver (.array []) stack)
  | .awaitFirstItem stack, token => beginValue limit (.items [] :: stack) token
  | .awaitFirstKey stack, .closeObject => .ok (deliver (.object []) stack)
  | .awaitFirstKey stack, token => takeKey stack [] token
  | .awaitKey stack done, token => takeKey stack done token
  | .awaitColon stack done key, .colon => .ok (.awaitValue (.members done key :: stack))
  | .afterItem stack reversed, .comma => .ok (.awaitValue (.items reversed :: stack))
  | .afterItem stack reversed, .closeArray => .ok (deliver (.array reversed.reverse) stack)
  | .afterMember stack done, .comma => .ok (.awaitKey stack done)
  | .afterMember stack done, .closeObject => .ok (deliver (.object done) stack)
  | .awaitColon .., _ | .afterItem .., _ | .afterMember .., _ | .complete _, _ => .error .misplaced

/-- The value, if the text may end here. -/
def finish : Assembly → Except Defect Value
  | .complete value => .ok value
  | _ => .error .truncated

end Assembly

/-- A token as it counts when it is only skipped. -/
def Token.unread : Token → Token
  | .number _ skipped => .word (skipped.map fun _ => .null)
  | .quoted _ skipped => .quoted (skipped.map fun _ => "") skipped
  | other => other

/-- The next token of a value that nobody reads. -/
def Assembly.skip (assembly : Assembly) (token : Token) : Except Defect Assembly :=
  assembly.step none token.unread

/-- The value that a text holds. -/
def Value.read (text : String) : Except Defect Value :=
  (Token.scan text).foldlM (Assembly.step (some Assembly.depthLimit)) (.awaitValue [])
    >>= Assembly.finish

end Json

end PageSession
