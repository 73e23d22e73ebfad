namespace ProviderWallet.Fee

abbrev Price := BitVec 128

def maxPrice : Nat := Nat.pow 2 128 - 1

/-- The most that is paid for gas: half more than the suggested price, rounded down. A tripled
price that does not fit counts as the largest one. -/
def cap (suggested : Price) : Price :=
  BitVec.ofNat 128 (min (3 * suggested.toNat) maxPrice / 2)

def tipCap (cap tip : Price) : Price :=
  if tip ≤ cap then tip else cap

end ProviderWallet.Fee
