import Gridface.Numbering

/-!
# Requests for ids

What a pool of ids is asked for, one request after the other. A request that is refused is answered
too, and the pool goes on.
-/

namespace Gridface

/-- What is asked of a pool of ids. -/
inductive Request
  /-- The id `index` for `key`. -/
  | reserve (key : String) (index : Nat)
  /-- Any id for `key`. -/
  | allocate (key : String)
  deriving DecidableEq, Repr

/-- The key that an id is requested for. -/
def Request.key : Request → String
  | reserve key _ => key
  | allocate key => key

namespace IdPool

/-- The pool after its search for a free id. -/
def advance (pool : IdPool) : IdPool := { pool with next := pool.firstFree pool.next }

/-- The answer to a request, and the pool to go on with: a request that is refused leaves `pool`. -/
def settle (pool : IdPool) : Except Fault (GlyphId × IdPool) → Except Fault GlyphId × IdPool
  | .ok (id, after) => (.ok id, after)
  | .error e => (.error e, pool)

/-- Answers a request. The search for a free id does not go back, even if there is none. -/
def answer (pool : IdPool) : Request → Except Fault GlyphId × IdPool
  | .reserve key index => pool.settle (pool.reserve key index)
  | .allocate key => pool.advance.settle (pool.allocate key)

end IdPool

end Gridface
