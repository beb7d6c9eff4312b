/-!
# Keeping provider clients

A client is expensive to make, so those who need one ask a cache for it,
by a signature of its settings. Looking a client up takes two phases,
between which others may come and go: it is looked for among readers, and
if it is not there it is looked for again, alone, and made only if it is
still not there. A client that cannot be made leaves the cache as it was.
-/

namespace Colloquy.Provider

/-- **Clients by their signatures.** -/
structure Cache (α : Type) where
  /-- The clients, each under its signature, the last one made first. -/
  entries : List (String × α) := []

namespace Cache

variable {α ε : Type}

/-- The client of a signature. -/
def find? (c : Cache α) (signature : String) : Option α :=
  c.entries.lookup signature

/-- A cache with a further client. -/
def insert (c : Cache α) (signature : String) (client : α) : Cache α where
  entries := (signature, client) :: c.entries

/-- How many clients there are. -/
def size (c : Cache α) : Nat := c.entries.length

/-- Whether there are no clients. -/
def isEmpty (c : Cache α) : Bool := c.entries.isEmpty

/-- A cache without its clients. -/
def clear (_ : Cache α) : Cache α := {}

/-- **The second phase of a look-up**: the client is looked for again, and
made if it is not there. Making it may have effects, and nothing is made
where the client is found. -/
def settle {m : Type → Type} [Monad m] (c : Cache α) (signature : String)
    (make : m (Except ε α)) : m (Cache α × Except ε α) :=
  match c.find? signature with
  | some client => pure (c, .ok client)
  | none => do
    match ← make with
    | .ok client => pure (c.insert signature client, .ok client)
    | .error failure => pure (c, .error failure)

/-- **A look-up that nobody interrupts.** -/
def get (c : Cache α) (signature : String) (make : Except ε α) :
    Cache α × Except ε α :=
  match c.find? signature with
  | some client => (c, .ok client)
  | none => Id.run (c.settle signature (pure make))

end Cache

end Colloquy.Provider
