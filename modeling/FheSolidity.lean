import FheSolidity.Main
import FheSolidity.Signature.Declaration
import FheSolidity.ValueType.Reader
import FheSolidity.Proofs.Command.DryRun
import FheSolidity.Proofs.Command.Options
import FheSolidity.Proofs.Declaration.Injective
import FheSolidity.Proofs.Expansion.Exclusion
import FheSolidity.Proofs.Expansion.Positions
import FheSolidity.Proofs.Generation.Brackets
import FheSolidity.Proofs.Generation.Collision
import FheSolidity.Proofs.Generation.Order
import FheSolidity.Proofs.Generation.Record
import FheSolidity.Proofs.Generation.Shapes
import FheSolidity.Proofs.Generation.Tested
import FheSolidity.Proofs.Listing
import FheSolidity.Proofs.Metadata.Document
import FheSolidity.Proofs.Metadata.Resolution
import FheSolidity.Proofs.Promotion.Join
import FheSolidity.Proofs.Solidity.Flow
import FheSolidity.Proofs.Solidity.Symbol.Attachments
import FheSolidity.Proofs.TestContract.Reached
