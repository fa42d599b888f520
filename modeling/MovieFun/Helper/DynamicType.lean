/-!
# DynamicType

A value with one listener. The listener is a closure, which here is told by what it captures.
-/

namespace MovieFun

/-- A value, with the one listener that is told when it changes. -/
structure DynamicType (T Listener : Type) where
  value : Option T
  listener : Option Listener := none
deriving DecidableEq, Repr

namespace DynamicType

variable {T Listener : Type}

/-- The value is set, and the listener, if there is one, is called with it. -/
def setValue (value : Option T) (dynamic : DynamicType T Listener) :
    DynamicType T Listener × Option (Listener × T) :=
  ({ dynamic with value },
    match dynamic.listener, value with
    | some listener, some value => some (listener, value)
    | _, _ => none)

/-- Take the place of whoever listens, without being told the value. -/
def listen (listener : Listener) (dynamic : DynamicType T Listener) : DynamicType T Listener :=
  { dynamic with listener := some listener }

end DynamicType

end MovieFun
