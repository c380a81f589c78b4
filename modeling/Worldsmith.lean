import Worldsmith.Main
import Worldsmith.Requirement.Grammar
import Worldsmith.Proofs.Requirement.Token
import Worldsmith.Proofs.Requirement.Grammar
import Worldsmith.Proofs.Requirement.Mentions
import Worldsmith.Proofs.Requirement.Faults
import Worldsmith.Proofs.Requirement.Reading
import Worldsmith.Proofs.Requirement.Amount
import Worldsmith.Proofs.Json.Token
import Worldsmith.Proofs.Json.Document
import Worldsmith.Proofs.Ron.Token
import Worldsmith.Proofs.Ron.Spelling
import Worldsmith.Proofs.Ron.Document
import Worldsmith.Proofs.World.Registration
import Worldsmith.Proofs.World.Run
import Worldsmith.Proofs.World.Record
import Worldsmith.Proofs.World.References
import Worldsmith.Proofs.World.Artifact
import Worldsmith.Proofs.World.Refusal
import Worldsmith.Proofs.World.Independence
import Worldsmith.Proofs.World.Reports
import Worldsmith.Proofs.World.Rewording
import Worldsmith.Proofs.Catalog.Steps
import Worldsmith.Proofs.Catalog.Expansion
import Worldsmith.Proofs.Catalog.Plan
import Worldsmith.Proofs.Catalog.Building
import Worldsmith.Proofs.Catalog.Resolved
import Worldsmith.Proofs.Catalog.Names
import Worldsmith.Proofs.Catalog.Buildable
import Worldsmith.Proofs.Catalog.Extension
import Worldsmith.Proofs.Catalog.Contents
import Worldsmith.Proofs.Catalog.Parts
import Worldsmith.Proofs.Catalog.Placement
import Worldsmith.Proofs.Catalog.Gates
import Worldsmith.Proofs.Catalog.Shares
import Worldsmith.Proofs.Catalog.Workshop
import Worldsmith.Proofs.Catalog.Rebuild
import Worldsmith.Proofs.Catalog.PackMemo
import Worldsmith.Proofs.Catalog.Order
import Worldsmith.Proofs.Catalog.Written
import Worldsmith.Proofs.Catalog.Formats
import Worldsmith.Proofs.Command.Arguments
import Worldsmith.Proofs.Command.Session
import Worldsmith.Proofs.Command.Writing
import Worldsmith.Proofs.Command.Generating
import Worldsmith.Proofs.Command.Repetition
import Worldsmith.Proofs.Command.Agreement
import Worldsmith.Proofs.Command.Confined
