/-!
# Integers in decimal

An integer is read from decimal digits only up to a number of them. There is no such bound on digits
in a base that is a power of two, nor on numbers with a fraction or an exponent.
-/

namespace ApiDecl.Decimal

/-- The most digits from which an integer is read. -/
def digitLimit : Nat := 4300

/-- What is said about an integer with more digits than the limit. -/
def excessMessage (limit digits : Nat) : String :=
  "Exceeds the limit (" ++ toString limit ++ " digits) for integer string conversion: value has " ++
    toString digits ++ " digits; use sys.set_int_max_str_digits() to increase the limit"

end ApiDecl.Decimal
