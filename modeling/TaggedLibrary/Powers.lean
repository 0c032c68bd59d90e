/-!
Powers of numbers. They are the core library's everywhere, also where an algebraic structure offers
powers of its own, so that the program and what is proved of it speak of the same ones.
-/

namespace TaggedLibrary

@[default_instance high]
instance (priority := 10000) natPower : Pow Nat Nat := instPowNat

@[default_instance high]
instance (priority := 10000) intPower : Pow Int Nat := instPowNat

end TaggedLibrary
