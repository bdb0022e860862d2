import SafeOutput.Event

namespace SafeOutput

/-- A result together with the events on the way to it, oldest first. -/
structure Journal (α : Type) where
  value : α
  events : List Event
  deriving DecidableEq, Repr

namespace Journal

variable {α β : Type}

def bind (j : Journal α) (f : α → Journal β) : Journal β :=
  ⟨(f j.value).value, j.events ++ (f j.value).events⟩

instance : Monad Journal where
  pure a := ⟨a, []⟩
  bind := bind

def log (e : Event) : Journal Unit := ⟨(), [e]⟩

@[simp] theorem value_pure (a : α) : (pure a : Journal α).value = a := rfl

@[simp] theorem events_pure (a : α) : (pure a : Journal α).events = [] := rfl

@[simp] theorem value_bind (j : Journal α) (f : α → Journal β) :
    (j >>= f).value = (f j.value).value := rfl

@[simp] theorem events_bind (j : Journal α) (f : α → Journal β) :
    (j >>= f).events = j.events ++ (f j.value).events := rfl

@[simp] theorem value_map (j : Journal α) (f : α → β) : (f <$> j).value = f j.value := rfl

@[simp] theorem events_map (j : Journal α) (f : α → β) : (f <$> j).events = j.events := by
  change j.events ++ [] = j.events
  simp

end Journal

end SafeOutput
