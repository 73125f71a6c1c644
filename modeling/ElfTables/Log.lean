/-!
Diagnostics. `Logged α` is a value together with the events of computing it, oldest first.
-/
namespace ElfTables

inductive LogLevel where
  | debug
  | info
  | warn
  deriving DecidableEq, Repr

structure LogEvent where
  level : LogLevel
  text : String
  deriving DecidableEq, Repr

@[ext] structure Logged (α : Type) where
  value : α
  events : List LogEvent
  deriving DecidableEq, Repr

namespace Logged

variable {α β : Type}

instance : Monad Logged where
  pure value := ⟨value, []⟩
  bind first next := ⟨(next first.value).value, first.events ++ (next first.value).events⟩

def log (level : LogLevel) (text : String) : Logged Unit := ⟨(), [⟨level, text⟩]⟩

@[simp] theorem value_pure (value : α) : (pure value : Logged α).value = value := rfl

@[simp] theorem events_pure (value : α) : (pure value : Logged α).events = [] := rfl

@[simp] theorem value_bind (first : Logged α) (next : α → Logged β) :
    (first >>= next).value = (next first.value).value := rfl

@[simp] theorem events_bind (first : Logged α) (next : α → Logged β) :
    (first >>= next).events = first.events ++ (next first.value).events := rfl

@[simp] theorem value_map (f : α → β) (first : Logged α) : (f <$> first).value = f first.value :=
  rfl

@[simp] theorem events_map (f : α → β) (first : Logged α) : (f <$> first).events = first.events :=
  List.append_nil _

@[simp] theorem value_log (level : LogLevel) (text : String) : (log level text).value = () := rfl

@[simp] theorem events_log (level : LogLevel) (text : String) :
    (log level text).events = [⟨level, text⟩] := rfl

instance : LawfulMonad Logged :=
  LawfulMonad.mk' Logged
    (fun _ => Logged.ext rfl (List.append_nil _))
    (fun _ _ => rfl)
    (fun _ _ _ => Logged.ext rfl (List.append_assoc _ _ _))

end Logged

end ElfTables
