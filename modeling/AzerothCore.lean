import AzerothCore.Auctions.AuctionHouse
import AzerothCore.Authserver.AuthRuns
import AzerothCore.Battlegrounds.BattlegroundMgr
import AzerothCore.Battlegrounds.RatedPairs
import AzerothCore.Battlegrounds.ResurrectQueue
import AzerothCore.Battlegrounds.SkirmishPools
import AzerothCore.Battlegrounds.Zones.WarsongEvents
import AzerothCore.Calendar.CalendarMgr
import AzerothCore.Chat.ChannelTakeOver
import AzerothCore.Chat.CommandVisibility
import AzerothCore.Chat.EnumArgument
import AzerothCore.Chat.LinkChecks
import AzerothCore.Chat.TalentLinks
import AzerothCore.Combat.ThreatTaunt
import AzerothCore.Conditions.Condition
import AzerothCore.Configuration.EnvVarKey
import AzerothCore.Cryptography.SRP6
import AzerothCore.Database.QueryCallback
import AzerothCore.Database.UpdateFetcher
import AzerothCore.DungeonFinding.ProposalLeader
import AzerothCore.Encoding.BaseEncoding
import AzerothCore.Events.GameEvents
import AzerothCore.Groups.RollBlocking
import AzerothCore.Guilds.GuildBankCharges
import AzerothCore.Guilds.GuildRanks
import AzerothCore.Instances.InstanceIds
import AzerothCore.Instances.ResetTimes
import AzerothCore.Loot.UnlootedSteps
import AzerothCore.Mails.MailPayments
import AzerothCore.Network.ProxyHeaderRuns
import AzerothCore.Network.WorldSocketSend
import AzerothCore.Pools.PoolMgr
import AzerothCore.Pools.QuestPools
import AzerothCore.Reputation.ReputationMgr
import AzerothCore.Sessions.PlayerLogin
import AzerothCore.Sessions.SessionUpdate
import AzerothCore.Sessions.SessionQueue
import AzerothCore.Storage.BuybackSlots
import AzerothCore.Tools.PlayerDumpWriter
import AzerothCore.Utilities.EventMapDelay
import AzerothCore.Utilities.EventMapRefinement
import AzerothCore.Utilities.EventProcessor
import AzerothCore.Utilities.HexString
import AzerothCore.Utilities.RandomResize
import AzerothCore.Utilities.TaskScheduler
import AzerothCore.Utilities.TimeString
import AzerothCore.Utilities.Utf8Truncate
import AzerothCore.Vehicles.Vehicle
