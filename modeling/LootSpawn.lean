import LootSpawn.Config
import LootSpawn.Content
import LootSpawn.FileTree
import LootSpawn.Line.Basic
import LootSpawn.Line.Clause
import LootSpawn.Line.Shape
import LootSpawn.Lint
import LootSpawn.Literal.Basic
import LootSpawn.Literal.Blank
import LootSpawn.Literal.Field
import LootSpawn.Literal.Printer
import LootSpawn.Literal.Reader
import LootSpawn.Literal.Token
import LootSpawn.Main
import LootSpawn.Name
import LootSpawn.Number.Decimal
import LootSpawn.Number.Percent
import LootSpawn.Number.Rounding
import LootSpawn.Number.Shortest
import LootSpawn.Number.Single
import LootSpawn.Proofs.Line.ClauseForm
import LootSpawn.Proofs.Line.Pattern
import LootSpawn.Proofs.Line.SpawnForm
import LootSpawn.Proofs.Line.VectorForm
import LootSpawn.Proofs.Lint.Duplicates
import LootSpawn.Proofs.Lint.LootChecks
import LootSpawn.Proofs.Lint.Severity
import LootSpawn.Proofs.Number.DecimalForm
import LootSpawn.Proofs.Session.Files
import LootSpawn.Proofs.Session.Instalments
import LootSpawn.Proofs.Session.World
import LootSpawn.Proofs.Source.Governing
import LootSpawn.Proofs.Store.LootContents
import LootSpawn.Proofs.Store.NewEntries
import LootSpawn.Proofs.Text.Runs
import LootSpawn.Scene.Keystream
import LootSpawn.Scene.Rehearsal
import LootSpawn.Scene.Resolver
import LootSpawn.Scene.Roller
import LootSpawn.Session.Basic
import LootSpawn.Session.Journal
import LootSpawn.Source.Basic
import LootSpawn.Source.Reading
import LootSpawn.Store.Document
import LootSpawn.Store.Loot
import LootSpawn.Store.Spawns
import LootSpawn.Text.AsciiCase
import LootSpawn.Text.Blank
import LootSpawn.Text.CaseRanges
import LootSpawn.Text.CodeRanges
import LootSpawn.Text.EscapedRanges
import LootSpawn.Text.Lines
import LootSpawn.Text.Lowercase
import LootSpawn.Text.Quoted
import LootSpawn.Text.Word
import LootSpawn.Text.WordRanges
import LootSpawn.Tool.Basic
import LootSpawn.Tool.Linter
import LootSpawn.Tool.Preview
import LootSpawn.Proofs.Line.Declaration
import LootSpawn.Proofs.Line.Exclusion
import LootSpawn.Proofs.Source.FirstOffence
import LootSpawn.Proofs.Store.Grouping
import LootSpawn.Proofs.Store.SpawnContents
import LootSpawn.Proofs.Session.Recorded
import LootSpawn.Proofs.Session.Marks
import LootSpawn.Proofs.Text.SettledCase
import LootSpawn.Proofs.Name.Keys
import LootSpawn.Proofs.Scene.Calls
import LootSpawn.Proofs.Scene.SeededRolls
import LootSpawn.Proofs.FileTree.Paths
import LootSpawn.Proofs.FileTree.Listing
import LootSpawn.Proofs.Session.DeclaredScene
import LootSpawn.Proofs.Session.Directories
import LootSpawn.Proofs.Text.LetterForms
import LootSpawn.Proofs.Text.LowerParts
import LootSpawn.Proofs.Source.LetterCase
import LootSpawn.Proofs.Scene.Spellings
import LootSpawn.Proofs.Tool.Verdict
import LootSpawn.Proofs.Session.Visits
import LootSpawn.Proofs.Name.HostNames
import LootSpawn.Proofs.Tool.Transcript
import LootSpawn.Proofs.Scene.TagMultipliers
import LootSpawn.Proofs.Number.Positional
import LootSpawn.Proofs.Line.Reading
import LootSpawn.Proofs.Line.LootForm
import LootSpawn.Proofs.Number.SingleRange
import LootSpawn.Proofs.Line.SpawnNumbers
import LootSpawn.Proofs.Scene.Rounds
import LootSpawn.Proofs.Lint.NeverSpawns
import LootSpawn.Proofs.Line.FirstMatch
import LootSpawn.Proofs.Line.SpawnFaults
import LootSpawn.Proofs.Scene.RaisedChances
import LootSpawn.Proofs.Source.LineEndings
import LootSpawn.Proofs.Lint.EmptyContexts
import LootSpawn.Proofs.Lint.Totals
import LootSpawn.Proofs.Scene.IgnoredScenes
import LootSpawn.Proofs.Store.ItemWeights
import LootSpawn.Proofs.Store.WrittenScenes
import LootSpawn.Proofs.Name.ItemNames
import LootSpawn.Proofs.Line.ItemLine
import LootSpawn.Proofs.Lint.RepeatedEntries
import LootSpawn.Proofs.Session.PrefixedItems
import LootSpawn.Proofs.Literal.Numeral
import LootSpawn.Proofs.Literal.Quoting
import LootSpawn.Proofs.Literal.ReadBack
import LootSpawn.Proofs.Store.LootDocuments
import LootSpawn.Proofs.Name.StoredKeys
import LootSpawn.Proofs.Text.ByteCuts
import LootSpawn.Proofs.Name.ItemBytes
import LootSpawn.Proofs.Session.Told
import LootSpawn.Proofs.Tool.SceneLines
import LootSpawn.Proofs.Tool.Rehearsals
import LootSpawn.Proofs.Tool.SceneRuns
