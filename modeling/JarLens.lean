import JarLens.Main
import JarLens.Report.Literal
import JarLens.Service.Tools
import JarLens.Dependency.Crowd
import JarLens.Proofs.Dependency.Frame
import JarLens.Proofs.Dependency.Lookup
import JarLens.Proofs.Dependency.Moves
import JarLens.Proofs.Dependency.Coalescing
import JarLens.Proofs.Tool.Ending
import JarLens.Proofs.Source.Tiers
import JarLens.Proofs.Source.Answers
import JarLens.Proofs.Source.Confinement
import JarLens.Proofs.Entry.Segments
import JarLens.Proofs.Entry.Spelling
import JarLens.Proofs.Text.Sorting
import JarLens.Proofs.Archive.Rows
import JarLens.Proofs.Dependency.MavenListing
import JarLens.Proofs.Dependency.GradleListing
import JarLens.Proofs.Files.Following
import JarLens.Proofs.Tool.Scratch
import JarLens.Proofs.Entry.SourcePath
import JarLens.Proofs.Entry.ClassFilter
import JarLens.Proofs.Source.Output
import JarLens.Proofs.Files.Changing
import JarLens.Proofs.Tool.Isolation
import JarLens.Proofs.Tool.Runner
import JarLens.Proofs.Dependency.ByRunner
import JarLens.Proofs.Dependency.Traces
import JarLens.Proofs.Text.CodeUnits
import JarLens.Proofs.Dependency.GroovySource
import JarLens.Proofs.Dependency.GroovyLiteral
import JarLens.Proofs.Dependency.InitScript
import JarLens.Proofs.Dependency.Keys
import JarLens.Proofs.Project.Roots
import JarLens.Proofs.Dependency.SameBuild
import JarLens.Proofs.Dependency.Queries
import JarLens.Proofs.Archive.Browsing
import JarLens.Proofs.Archive.Lookup
import JarLens.Proofs.Archive.Pairs
import JarLens.Proofs.Archive.Finding
import JarLens.Proofs.Archive.RowMembers
import JarLens.Proofs.Archive.Narrowing
import JarLens.Proofs.Archive.Unread
import JarLens.Proofs.Archive.Outcomes
import JarLens.Proofs.Failing
import JarLens.Proofs.Files.Resolving
import JarLens.Proofs.Files.Beyond
import JarLens.Proofs.Project.Nearest
import JarLens.Proofs.Dependency.GradlePaths
import JarLens.Proofs.Dependency.MavenReading
import JarLens.Proofs.Text.LowerCase
import JarLens.Proofs.Text.CaseVariants
import JarLens.Proofs.Dependency.Matching
import JarLens.Proofs.Dependency.Merging
import JarLens.Proofs.Dependency.Course
import JarLens.Proofs.Service.Sessions
import JarLens.Proofs.Tool.Guard
import JarLens.Proofs.Project.Revisited
import JarLens.Proofs.Dependency.AtHome
import JarLens.Proofs.Dependency.Tails
import JarLens.Proofs.Entry.ClassFile
import JarLens.Proofs.Source.Operands
