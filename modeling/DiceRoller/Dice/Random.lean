/-
# Random dice

The source used when nobody prepares the dice: a generator of pseudorandom numbers. The
specification (section 4.3) takes a generator of its platform and an inclusive uniform range. Here
the generator is `StdGen`, so the numbers of a session are others than there, and nothing is claimed
about which numbers they are or how they are spread.

One thing is proved of it: with one side there is no choice (`randomDice_showsOnlyFace`, in
`Proofs/Console/Dice.lean`), which is how sessions with random dice can be compared. How a uniform
number is made of random words is described in `Dice/Words.lean`, where the words are given, and
fairness is proved there.
-/
import DiceRoller.Dice.Source

namespace DiceRoller

/-- Dice thrown with a pseudorandom generator. -/
def randomDice : DiceSource StdGen where
  throw sides generator :=
    let thrown := randNat generator 1 sides.toNat
    (.ofNat thrown.1, thrown.2)

end DiceRoller
