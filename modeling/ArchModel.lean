import ArchModel.Main
import ArchModel.Proofs.Analysis.Relations
import ArchModel.Proofs.Tag.Rewritten
import ArchModel.Proofs.Usage.Independence
import ArchModel.Proofs.Validation.Verdict
import ArchModel.Tag.Render
import ArchModel.Proofs.Validation.Tagging
import ArchModel.Proofs.Validation.Growth
import ArchModel.Proofs.Workspace.Links
import ArchModel.Proofs.Workspace.Acceptance
import ArchModel.Proofs.Workspace.Accounts
import ArchModel.Proofs.Program.ModuleNames
import ArchModel.Proofs.Program.Methods
import ArchModel.Proofs.Program.RelativeImports
import ArchModel.Proofs.Extraction.Grouped
import ArchModel.Proofs.Tag.Delimiters
import ArchModel.Proofs.Extraction.TagLines
import ArchModel.Proofs.Tag.BlockEntries
import ArchModel.Proofs.Group.Traversal
import ArchModel.Proofs.Group.Presented
import ArchModel.Proofs.Group.ListPaths
import ArchModel.Proofs.Extraction.Handled
import ArchModel.Proofs.Validation.Duplicates
import ArchModel.Proofs.Usage.Constructions
import ArchModel.Proofs.Analysis.Undeclared
import ArchModel.Proofs.Files.Selection
import ArchModel.Proofs.Config.SourcePatterns
import ArchModel.Proofs.Config.Loading
import ArchModel.Proofs.Tag.Declarations
