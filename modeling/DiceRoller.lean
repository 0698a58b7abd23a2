import DiceRoller.Console.Arguments
import DiceRoller.Console.Basic
import DiceRoller.Console.Editing
import DiceRoller.Console.Emphasis
import DiceRoller.Console.Environment
import DiceRoller.Console.EnvironmentFile
import DiceRoller.Console.Folder
import DiceRoller.Console.Highlight
import DiceRoller.Console.Input
import DiceRoller.Console.LineHistory
import DiceRoller.Console.Markdown
import DiceRoller.Console.Output
import DiceRoller.Console.Run
import DiceRoller.Console.StoredHistory
import DiceRoller.Console.Switch
import DiceRoller.Console.TimeOfDay
import DiceRoller.Console.Tint
import DiceRoller.Dice.Descriptor
import DiceRoller.Dice.Keep
import DiceRoller.Error
import DiceRoller.Main
import DiceRoller.Notation.Canonical
import DiceRoller.Notation.Parse
import DiceRoller.Notation.Phrase
import DiceRoller.Notation.Recognizer
import DiceRoller.Notation.Value
import DiceRoller.Proofs.Console.Dialogue
import DiceRoller.Proofs.Console.Highlighting
import DiceRoller.Proofs.Dice.Bounds
import DiceRoller.Proofs.Dice.Rank
import DiceRoller.Proofs.Dice.Selection
import DiceRoller.Proofs.Notation.Grammar
import DiceRoller.Proofs.Notation.Meaning
import DiceRoller.Proofs.Notation.Printing
import DiceRoller.Proofs.Notation.Recognition
import DiceRoller.Proofs.Notation.Recognizer
import DiceRoller.Proofs.Notation.Respelling
import DiceRoller.Proofs.Notation.Stopping
import DiceRoller.Proofs.Notation.Terminals
import DiceRoller.Proofs.Outcome
import DiceRoller.Proofs.Roll.Account
import DiceRoller.Proofs.Roll.Chance
import DiceRoller.Proofs.Roll.Drawing
import DiceRoller.Proofs.Roll.Extremes
import DiceRoller.Proofs.Roll.Range
import DiceRoller.Proofs.Roll.Recording
import DiceRoller.Proofs.Roll.Resolution
import DiceRoller.Proofs.Roll.Throws
import DiceRoller.Proofs.Scan.Activation
import DiceRoller.Proofs.Scan.Barriers
import DiceRoller.Proofs.Scan.Cursors
import DiceRoller.Proofs.Scan.Decoding
import DiceRoller.Proofs.Scan.Formulas
import DiceRoller.Proofs.Scan.Leftover
import DiceRoller.Proofs.Scan.Locality.Attack
import DiceRoller.Proofs.Scan.Locality.Dice
import DiceRoller.Proofs.Scan.Locality.Link
import DiceRoller.Proofs.Scan.Locality.Save
import DiceRoller.Proofs.Scan.Locality.Seam
import DiceRoller.Proofs.Scan.Marks
import DiceRoller.Proofs.Scan.Pieces
import DiceRoller.Proofs.Scan.Quiet
import DiceRoller.Proofs.Scan.Repetition
import DiceRoller.Proofs.Scan.Rereading
import DiceRoller.Proofs.Scan.Segmentation
import DiceRoller.Proofs.Scan.Shape
import DiceRoller.Proofs.Scan.Silence
import DiceRoller.Proofs.Scan.Spans
import DiceRoller.Proofs.Scan.Tags
import DiceRoller.Proofs.Session.Conversation
import DiceRoller.Proofs.Session.Failing
import DiceRoller.Proofs.Session.Picking
import DiceRoller.Proofs.Session.Reproducible
import DiceRoller.Proofs.Session.Request
import DiceRoller.Proofs.Session.Room
import DiceRoller.Proofs.Session.RoundTrip
import DiceRoller.Proofs.Session.Shorthand
import DiceRoller.Proofs.Text.CharClass
import DiceRoller.Proofs.Text.Run
import DiceRoller.Proofs.Text.Search
import DiceRoller.Random.Generator
import DiceRoller.Random.Keystream
import DiceRoller.Roll.Basic
import DiceRoller.Roll.Log
import DiceRoller.Roll.Query
import DiceRoller.Roll.Resolve
import DiceRoller.Roll.Source
import DiceRoller.Scan.Cursor
import DiceRoller.Scan.Markup
import DiceRoller.Scan.Pattern
import DiceRoller.Scan.Piece
import DiceRoller.Scan.Rollable
import DiceRoller.Scan.Scanner
import DiceRoller.Session.Basic
import DiceRoller.Session.Command
import DiceRoller.Session.Reply
import DiceRoller.Text.AlphaNumeric
import DiceRoller.Text.Blank
import DiceRoller.Text.Bytes
import DiceRoller.Text.Caseless
import DiceRoller.Text.Cluster
import DiceRoller.Text.ClusterRole
import DiceRoller.Text.CodeRange
import DiceRoller.Text.Decimal
import DiceRoller.Text.DecimalDigit
import DiceRoller.Text.Lines
import DiceRoller.Text.Lowercase
import DiceRoller.Text.Quoted
import DiceRoller.Text.Search
import DiceRoller.Text.Similarity
import DiceRoller.Text.Visible
import DiceRoller.Text.WordChar
