import SessionAuth.Config.Load
import SessionAuth.Database.Connect
import SessionAuth.Http.Router
import SessionAuth.Store.Memory
import SessionAuth.Store.Relational
import SessionAuth.Proofs.Account.Normal
import SessionAuth.Proofs.Account.Shape
import SessionAuth.Proofs.Config.Layers
import SessionAuth.Proofs.Config.Usable
import SessionAuth.Proofs.Http.Clients
import SessionAuth.Proofs.Http.Envelope
import SessionAuth.Proofs.Http.Faults
import SessionAuth.Proofs.Http.LogoutAll
import SessionAuth.Proofs.Password.Pool
import SessionAuth.Proofs.Service.Accounting
import SessionAuth.Proofs.Service.Addresses
import SessionAuth.Proofs.Service.Apart
import SessionAuth.Proofs.Service.AppendOnly
import SessionAuth.Proofs.Service.Honoured
import SessionAuth.Proofs.Service.Lifetimes
import SessionAuth.Proofs.Service.Lineage
import SessionAuth.Proofs.Service.Orphans
import SessionAuth.Proofs.Service.Passwords
import SessionAuth.Proofs.Service.Spent
import SessionAuth.Proofs.Service.Traceless
import SessionAuth.Proofs.Store.Readback
import SessionAuth.Proofs.Store.Simulation
import SessionAuth.Proofs.Token.Signer
import SessionAuth.Proofs.Service.Equalized
import SessionAuth.Proofs.Service.Secrets
