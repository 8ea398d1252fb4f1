import TernoaEnclave.Text
import TernoaEnclave.Chain.Types
import TernoaEnclave.Chain.Token
import TernoaEnclave.Chain.Codec
import TernoaEnclave.Chain.Verify
import TernoaEnclave.Chain.Authorization
import TernoaEnclave.Chain.Refinement
import TernoaEnclave.Chain.Wrapper
import TernoaEnclave.Backup.AdminToken
import TernoaEnclave.Backup.FetchId
import TernoaEnclave.Backup.Concurrent
import TernoaEnclave.Tools.Requests
import TernoaEnclave.Tools.FetchId
