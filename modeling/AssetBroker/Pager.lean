import AssetBroker.Backend.Dialogue

/-! Pagers, as a host uses them: cursors over pages of references that a manager found
for a query. A pager belongs to the host that got it until the host releases it. -/
namespace AssetBroker.Pager

variable {V : Vendor}

def hasNext (pager : V.Pager) : Dialogue V (Except Error Bool) := Dialogue.page pager .hasNext

def get (pager : V.Pager) : Dialogue V (Except Error (List EntityReference)) :=
  Dialogue.page pager .get

def advance (pager : V.Pager) : Dialogue V (Except Error Unit) := Dialogue.page pager .advance

def release (pager : V.Pager) : Dialogue V Unit := Dialogue.releaseAll [pager]

/-- Pagers show nothing of what they hold. -/
def display : String := "EntityReferencePager \x7b .. \x7d"

end AssetBroker.Pager
