import DiceRoller.Chat.Conversation
import DiceRoller.Console.Session
import DiceRoller.Dice.Prepared
import DiceRoller.Dice.Random
import DiceRoller.Dice.Words
import DiceRoller.Main
import DiceRoller.Options.Usage
import DiceRoller.Proofs.DiceSet.Leftmost
import DiceRoller.Proofs.Grammar.Dice
import DiceRoller.Proofs.Grammar.Command
import DiceRoller.Proofs.DiceSet.ClosedForm
import DiceRoller.Proofs.DiceSet.RoundTrip
import DiceRoller.Proofs.Evaluate.Signed
import DiceRoller.Proofs.Evaluate.Exact
import DiceRoller.Proofs.Evaluate.Saturation
import DiceRoller.Proofs.Evaluate.Effects
import DiceRoller.Proofs.Evaluate.Totals
import DiceRoller.Proofs.Chat.Dice
import DiceRoller.Proofs.Chat.Conservation
import DiceRoller.Proofs.Text.Words
import DiceRoller.Proofs.Chat.Agreement
import DiceRoller.Proofs.Evaluate.Subtraction
import DiceRoller.Proofs.Chat.Permission
import DiceRoller.Proofs.Console.Reason
import DiceRoller.Proofs.Text.Encoding
import DiceRoller.Proofs.Console.Dice
import DiceRoller.Proofs.Console.Piped
import DiceRoller.Proofs.Console.Screen
import DiceRoller.Proofs.Console.Session
import DiceRoller.Proofs.Chat.Filters
import DiceRoller.Proofs.Chat.Argument
import DiceRoller.Proofs.DiceSet.Canonical
import DiceRoller.Proofs.DiceSet.Surroundings
import DiceRoller.Proofs.Chat.Defaults
import DiceRoller.Proofs.Evaluate.Reading
import DiceRoller.Proofs.Dice.Fair
import DiceRoller.Proofs.Dice.Draws
import DiceRoller.Proofs.Chat.FirstReason
import DiceRoller.Proofs.Text.Entries
import DiceRoller.Proofs.Options.Arguments
import DiceRoller.Proofs.Options.Layers
import DiceRoller.Proofs.Console.Completion
import DiceRoller.Proofs.Console.History
