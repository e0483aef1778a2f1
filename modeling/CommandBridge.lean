import CommandBridge.Hub
import CommandBridge.Rehearsal.Instruction
import CommandBridge.Proofs.Accounting
import CommandBridge.Proofs.Agreement
import CommandBridge.Proofs.Announcement
import CommandBridge.Proofs.ArchiveAddress
import CommandBridge.Proofs.Backends
import CommandBridge.Proofs.CommandGrammar
import CommandBridge.Proofs.Config.Settings
import CommandBridge.Proofs.Delivery
import CommandBridge.Proofs.Destinations
import CommandBridge.Proofs.DestinationsAddress
import CommandBridge.Proofs.DestinationsBody
import CommandBridge.Proofs.Dropping
import CommandBridge.Proofs.ErrorSlot
import CommandBridge.Proofs.FailedSaves
import CommandBridge.Proofs.Formats
import CommandBridge.Proofs.Hub
import CommandBridge.Proofs.Independence
import CommandBridge.Proofs.KeyPosts
import CommandBridge.Proofs.KeyStores
import CommandBridge.Proofs.KeyedCalls
import CommandBridge.Proofs.Leaves
import CommandBridge.Proofs.Shapes
import CommandBridge.Proofs.SharedKey
import CommandBridge.Proofs.Spellings
import CommandBridge.Proofs.Uploads
import CommandBridge.Proofs.Versions
