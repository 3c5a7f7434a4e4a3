import CountBridge.World

/-!
Programs over the bridge. A program names the handles, wrappers and heaps it
works on; operations that run a body nest to any depth. Values of a type of the
caller's choice pass through control operations untouched.
-/

namespace CountBridge.Program

abbrev Name := String

/-- An operation without a body. A name to keep something under is optional; what
is not kept is given back when the operation ends, or simply forgotten. -/
inductive Action where
  | openHeap (name : Name)
  | boot (heap : Name)
  | heapInfo (heap : Name)
  | newPlain (heap : Name) (className : String) (keep : Option Name)
  | newBytes (heap : Name) (bytes : ByteArray) (keep : Option Name)
  | newVector (heap : Name) (keep : Option Name)
  | newString (heap : Name) (bytes : ByteArray) (keep : Option Name)
  | newError (heap : Name) (mess : Name) (keep : Option Name)
  | increment (heap : Name) (handle : Name)
  | decrement (heap : Name) (handle : Name)
  | push (heap : Name) (vector item : Name)
  | look (heap : Name) (handle : Name)
  | alive (heap : Name) (handle : Name)
  | toString (heap : Name) (handle : Name) (keep : Option Name)
  | messageOf (heap : Name) (handle : Name) (keep : Option Name)
  | throwHandle (heap : Name) (handle : Name)
  | hostRaise (heap : Name) (handle : Name)
  | throwMessage (heap : Name) (message : String)
  | bootstrap (heap : Name) (config : Config) (version : UInt32)
  | current
  | bindingInfo
  | collect
  | makeString (text : String) (keep : Option Name)
  | makeError (text : String) (keep : Option Name)
  | extract (handle : Name) (keep : Option Name)
  | stub (stubs : Stubs)
  | burst (handle : Name) (count : Nat)
  | hammer (handle : Name) (threads count : Nat)
  | adopt (kind : WrapperKind) (handle : Name) (keep : Option Name)
  | ofRaw (kind : WrapperKind) (handle : Name) (keep : Option Name)
  | retain (handle : Name) (keep : Option Name)
  | convert (wrapper : Name) (kind : WrapperKind)
  | intoRaw (wrapper : Name) (keep : Option Name)
  | handleOf (wrapper : Name) (keep : Option Name)
  | release (wrapper : Name)
  | clone (wrapper : Name) (keep : Option Name)
  | dropWrapper (wrapper : Name)
  | inspect (wrapper : Name)
  | text (wrapper : Name)
  | message (wrapper : Name)
  | compare (first second : Name)
  | raise (wrapper : Name)
  | panicText (message : String)
  | panicNumber (value : Int)

/-- The word for an operation in a program's transcript. -/
def Action.name : Action → String
  | .openHeap _ => "heap"
  | .boot _ => "boot"
  | .heapInfo _ => "heap_info"
  | .newPlain .. => "new_obj"
  | .newBytes .. => "new_bytebuf"
  | .newVector .. => "new_vector"
  | .newString .. => "new_str"
  | .newError .. => "err_new"
  | .increment .. => "inc"
  | .decrement .. => "dec"
  | .push .. => "vec_push"
  | .look .. => "look"
  | .alive .. => "alive"
  | .toString .. => "to_string"
  | .messageOf .. => "get_mess"
  | .throwHandle .. => "throw"
  | .hostRaise .. => "host_raise"
  | .throwMessage .. => "throw_message"
  | .bootstrap .. => "bootstrap"
  | .current => "current"
  | .bindingInfo => "rt_debug"
  | .collect => "collect"
  | .makeString .. => "new_string"
  | .makeError .. => "new_err"
  | .extract .. => "extract"
  | .stub _ => "sys"
  | .burst .. => "burst"
  | .hammer .. => "hammer"
  | .adopt .. => "adopt"
  | .ofRaw .. => "from_raw"
  | .retain .. => "inc_ref"
  | .convert .. => "convert"
  | .intoRaw .. => "into_raw"
  | .handleOf .. => "handle"
  | .release _ => "release"
  | .clone .. => "clone"
  | .dropWrapper _ => "drop"
  | .inspect _ => "show"
  | .text _ => "text"
  | .message _ => "message"
  | .compare .. => "compare"
  | .raise _ => "raise"
  | .panicText _ | .panicNumber _ => "panic"

inductive Op (α : Type) where
  | act (action : Action)
  | attempt (heap : Name) (body : List (Op α)) (keep : Option Name)
  | hostTrap (heap : Name) (body : List (Op α)) (keep : Option Name)
  | runRoutine (heap : Name) (body : List (Op α)) (keep : Option Name)
  | trap (body : List (Op α)) (value : α) (keep : Option Name)
  | guarded (body : List (Op α)) (value : α)
  | scope (body : List (Op α))
  | scoped (wrapper : Name) (body : List (Op α))
  | thread (body : List (Op α)) (value : α)
  | trapFuture (body : List (Op α)) (value : α) (keep : Option Name)
  | spawn (body : List (Op α)) (value : α) (keep : Option Name)

end CountBridge.Program
