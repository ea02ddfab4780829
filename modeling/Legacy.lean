import Legacy.Server.Dispatch
import Legacy.Spells.WriteBack
import Legacy.Unit.StatPoints
import Legacy.Spells.Points
import Legacy.Sql.DelayThread
import Legacy.Sql.Transactions
import Legacy.Inventory.PetModifiers
import Legacy.Inventory.WriteBack
import Legacy.Inventory.SlotSafety
import Legacy.Inventory.VendorGoods
import Legacy.Inventory.Conservation
import Legacy.Inventory.Consumption
import Legacy.Wire.ReadSafety
import Legacy.Unit.Pending
import Legacy.Battle.Counter
import Legacy.Battle.Queue
import Legacy.Battle.Skills
import Legacy.Battle.Timers
import Legacy.Battle.Kills
import Legacy.Battle.EmptyCells
import Legacy.Server.SocketLink
import Legacy.Server.LivePlayer
import Legacy.Party.Consent
import Legacy.Party.Battles
import Legacy.Chat.Assertions
import Legacy.Sql.CharacterSave
import Legacy.Map.Registration
import Legacy.Battle.SpellArea
import Legacy.Battle.Redirect
import Legacy.Battle.LinkRule
import Legacy.Battle.HitRecord
import Legacy.Battle.ActionPacket
import Legacy.Battle.Capture
import Legacy.Battle.Awaited
import Legacy.Battle.DealtDamage
import Legacy.Unit.Powers
import Legacy.Battle.DamageRoll
import Legacy.Battle.Drops
import Legacy.Battle.SendRuns
import Legacy.Battle.Release
import Legacy.Party.Placement
import Legacy.Unit.Levels
import Legacy.Battle.Expiry
import Legacy.Map.Update
import Legacy.Map.RandomMovement
import Legacy.Pets.Loyalty
import Legacy.Lib.Walk
import Legacy.Party.Subleader
import Legacy.Party.Teleport
import Legacy.Inventory.Unequip
import Legacy.Inventory.MaxCount
import Legacy.Pets.Keeping
import Legacy.Pets.Kept
import Legacy.Pets.Handling
import Legacy.Pets.Login
import Legacy.Pets.BattlePet
import Legacy.Pets.Release
import Legacy.Inventory.ModelCache
import Legacy.Map.NpcGuid
import Legacy.Inventory.VendorSlots
import Legacy.Chat.CommandTables
import Legacy.Server.LoginFlag
import Legacy.Lib.SortedMap
import Legacy.Wire.Items
import Legacy.Wire.Strings
import Legacy.Inventory.ModRoundTrip
import Legacy.Lib.Lehmer
import Legacy.Util.Rand32
import Legacy.Lib.Runs
import Legacy.Util.Tokens
import Legacy.Util.TimeText
import Legacy.Lib.Chain
import Legacy.Map.References
import Legacy.Map.GridHeap
import Legacy.Sql.AsyncQueries
import Legacy.Config.Words
import Legacy.Config.Document
import Legacy.Config.Files
import Legacy.Config.Pointers
import Legacy.Config.Sources
import Legacy.Config.Loading
import Legacy.Config.Includes
