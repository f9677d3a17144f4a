import ShardRouting.Settings.Decoding
import ShardRouting.Shard.Sequence
import ShardRouting.Sql.Scan
import ShardRouting.Routing.Router
import ShardRouting.Command.Program
import ShardRouting.Main
import ShardRouting.Proofs.Effect
import ShardRouting.Proofs.Agreement
import ShardRouting.Proofs.Checking
import ShardRouting.Proofs.Coverage
import ShardRouting.Proofs.Placement
import ShardRouting.Proofs.Revision
import ShardRouting.Proofs.Composition
import ShardRouting.Proofs.Enclosure
import ShardRouting.Proofs.Frame
import ShardRouting.Proofs.Reach
import ShardRouting.Proofs.Persistence
import ShardRouting.Proofs.Filling
import ShardRouting.Proofs.Reordering
import ShardRouting.Proofs.Untouched
import ShardRouting.Proofs.Disregard
import ShardRouting.Proofs.Blocks
import ShardRouting.Proofs.Casing
import ShardRouting.Proofs.Qualifiers
import ShardRouting.Proofs.Stranding
import ShardRouting.Proofs.Clashes
import ShardRouting.Proofs.Shadowing
import ShardRouting.Proofs.Deletions
import ShardRouting.Proofs.Targets
import ShardRouting.Proofs.Construction
import ShardRouting.Proofs.Listing
import ShardRouting.Proofs.Counting
import ShardRouting.Proofs.Negation
import ShardRouting.Proofs.Easing
import ShardRouting.Proofs.Freeing
import ShardRouting.Proofs.Rendering
import ShardRouting.Proofs.Ruling
import ShardRouting.Proofs.Insertions
import ShardRouting.Proofs.Overriding
import ShardRouting.Proofs.Numerals
import ShardRouting.Proofs.Spellings
import ShardRouting.Proofs.Unquoting
import ShardRouting.Proofs.Claiming
import ShardRouting.Proofs.Dotting
import ShardRouting.Proofs.Ordinals
import ShardRouting.Proofs.Recall
