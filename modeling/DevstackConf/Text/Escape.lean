/-!
# Escaping text for display

Strings are shown between double quotes with a backslash before `"` and `\`, the escapes
`\0`, `\t`, `\r` and `\n`, and `\u{XXXX}` (lowercase hexadecimal, no leading zeros) for
every other character that is not printable or that extends the grapheme before it (combining
marks and the like). A character is not printable when it is a control, format, surrogate,
private-use or unassigned code point, a separator other than the space, or a code point that is
ignorable by default (which adds the Hangul fillers to the others).

The two tables list those code points, by the Unicode 17.0 character database, as inclusive
ranges, each bound written with six hexadecimal digits. The one exception is the pair of halfwidth
katakana sound marks U+FF9E and U+FF9F: they are spacing modifier letters, shown as they are,
and not counted among the characters that extend a grapheme.
-/

namespace DevstackConf.Text

/-- Ranges of code points that are not printable. -/
def nonPrintableTable : String :=
  "00000000001F00007F0000A00000AD0000AD00034F00034F00037800037900038000038300038B00038B" ++
  "00038D00038D0003A20003A200053000053000055700055800058B00058C0005900005900005C80005CF" ++
  "0005EB0005EE0005F500060500061C00061C0006DD0006DD00070E00070F00074B00074C0007B20007BF" ++
  "0007FB0007FC00082E00082F00083F00083F00085C00085D00085F00085F00086B00086F000890000896" ++
  "0008E20008E200098400098400098D00098E0009910009920009A90009A90009B10009B10009B30009B5" ++
  "0009BA0009BB0009C50009C60009C90009CA0009CF0009D60009D80009DB0009DE0009DE0009E40009E5" ++
  "0009FF000A00000A04000A04000A0B000A0E000A11000A12000A29000A29000A31000A31000A34000A34" ++
  "000A37000A37000A3A000A3B000A3D000A3D000A43000A46000A49000A4A000A4E000A50000A52000A58" ++
  "000A5D000A5D000A5F000A65000A77000A80000A84000A84000A8E000A8E000A92000A92000AA9000AA9" ++
  "000AB1000AB1000AB4000AB4000ABA000ABB000AC6000AC6000ACA000ACA000ACE000ACF000AD1000ADF" ++
  "000AE4000AE5000AF2000AF8000B00000B00000B04000B04000B0D000B0E000B11000B12000B29000B29" ++
  "000B31000B31000B34000B34000B3A000B3B000B45000B46000B49000B4A000B4E000B54000B58000B5B" ++
  "000B5E000B5E000B64000B65000B78000B81000B84000B84000B8B000B8D000B91000B91000B96000B98" ++
  "000B9B000B9B000B9D000B9D000BA0000BA2000BA5000BA7000BAB000BAD000BBA000BBD000BC3000BC5" ++
  "000BC9000BC9000BCE000BCF000BD1000BD6000BD8000BE5000BFB000BFF000C0D000C0D000C11000C11" ++
  "000C29000C29000C3A000C3B000C45000C45000C49000C49000C4E000C54000C57000C57000C5B000C5B" ++
  "000C5E000C5F000C64000C65000C70000C76000C8D000C8D000C91000C91000CA9000CA9000CB4000CB4" ++
  "000CBA000CBB000CC5000CC5000CC9000CC9000CCE000CD4000CD7000CDB000CDF000CDF000CE4000CE5" ++
  "000CF0000CF0000CF4000CFF000D0D000D0D000D11000D11000D45000D45000D49000D49000D50000D53" ++
  "000D64000D65000D80000D80000D84000D84000D97000D99000DB2000DB2000DBC000DBC000DBE000DBF" ++
  "000DC7000DC9000DCB000DCE000DD5000DD5000DD7000DD7000DE0000DE5000DF0000DF1000DF5000E00" ++
  "000E3B000E3E000E5C000E80000E83000E83000E85000E85000E8B000E8B000EA4000EA4000EA6000EA6" ++
  "000EBE000EBF000EC5000EC5000EC7000EC7000ECF000ECF000EDA000EDB000EE0000EFF000F48000F48" ++
  "000F6D000F70000F98000F98000FBD000FBD000FCD000FCD000FDB000FFF0010C60010C60010C80010CC" ++
  "0010CE0010CF00115F00116000124900124900124E00124F00125700125700125900125900125E00125F" ++
  "00128900128900128E00128F0012B10012B10012B60012B70012BF0012BF0012C10012C10012C60012C7" ++
  "0012D70012D700131100131100131600131700135B00135C00137D00137F00139A00139F0013F60013F7" ++
  "0013FE0013FF00168000168000169D00169F0016F90016FF00171600171E00173700173F00175400175F" ++
  "00176D00176D00177100177100177400177F0017B40017B50017DE0017DF0017EA0017EF0017FA0017FF" ++
  "00180B00180F00181A00181F00187900187F0018AB0018AF0018F60018FF00191F00191F00192C00192F" ++
  "00193C00193F00194100194300196E00196F00197500197F0019AC0019AF0019CA0019CF0019DB0019DD" ++
  "001A1C001A1D001A5F001A5F001A7D001A7E001A8A001A8F001A9A001A9F001AAE001AAF001ADE001ADF" ++
  "001AEC001AFF001B4D001B4D001BF4001BFB001C38001C3A001C4A001C4C001C8B001C8F001CBB001CBC" ++
  "001CC8001CCF001CFB001CFF001F16001F17001F1E001F1F001F46001F47001F4E001F4F001F58001F58" ++
  "001F5A001F5A001F5C001F5C001F5E001F5E001F7E001F7F001FB5001FB5001FC5001FC5001FD4001FD5" ++
  "001FDC001FDC001FF0001FF1001FF5001FF5001FFF00200F00202800202F00205F00206F002072002073" ++
  "00208F00208F00209D00209F0020C20020CF0020F10020FF00218C00218F00242A00243F00244B00245F" ++
  "002B74002B75002CF4002CF8002D26002D26002D28002D2C002D2E002D2F002D68002D6E002D71002D7E" ++
  "002D97002D9F002DA7002DA7002DAF002DAF002DB7002DB7002DBF002DBF002DC7002DC7002DCF002DCF" ++
  "002DD7002DD7002DDF002DDF002E5E002E7F002E9A002E9A002EF4002EFF002FD6002FEF003000003000" ++
  "00304000304000309700309800310000310400313000313000316400316400318F00318F0031E60031EE" ++
  "00321F00321F00A48D00A48F00A4C700A4CF00A62C00A63F00A6F800A6FF00A7DD00A7F000A82D00A82F" ++
  "00A83A00A83F00A87800A87F00A8C600A8CD00A8DA00A8DF00A95400A95E00A97D00A97F00A9CE00A9CE" ++
  "00A9DA00A9DD00A9FF00A9FF00AA3700AA3F00AA4E00AA4F00AA5A00AA5B00AAC300AADA00AAF700AB00" ++
  "00AB0700AB0800AB0F00AB1000AB1700AB1F00AB2700AB2700AB2F00AB2F00AB6C00AB6F00ABEE00ABEF" ++
  "00ABFA00ABFF00D7A400D7AF00D7C700D7CA00D7FC00F8FF00FA6E00FA6F00FADA00FAFF00FB0700FB12" ++
  "00FB1800FB1C00FB3700FB3700FB3D00FB3D00FB3F00FB3F00FB4200FB4200FB4500FB4500FDD000FDEF" ++
  "00FE0000FE0F00FE1A00FE1F00FE5300FE5300FE6700FE6700FE6C00FE6F00FE7500FE7500FEFD00FF00" ++
  "00FFA000FFA000FFBF00FFC100FFC800FFC900FFD000FFD100FFD800FFD900FFDD00FFDF00FFE700FFE7" ++
  "00FFEF00FFFB00FFFE00FFFF01000C01000C01002701002701003B01003B01003E01003E01004E01004F" ++
  "01005E01007F0100FB0100FF01010301010601013401013601018F01018F01019D01019F0101A10101CF" ++
  "0101FE01027F01029D01029F0102D10102DF0102FC0102FF01032401032C01034B01034F01037B01037F" ++
  "01039E01039E0103C40103C70103D60103FF01049E01049F0104AA0104AF0104D40104D70104FC0104FF" ++
  "01052801052F01056401056E01057B01057B01058B01058B0105930105930105960105960105A20105A2" ++
  "0105B20105B20105BA0105BA0105BD0105BF0105F40105FF01073701073F01075601075F01076801077F" ++
  "0107860107860107B10107B10107BB0107FF01080601080701080901080901083601083601083901083B" ++
  "01083D01083E01085601085601089F0108A60108B00108DF0108F30108F30108F60108FA01091C01091E" ++
  "01093A01093E01095A01097F0109B80109BB0109D00109D1010A04010A04010A07010A0B010A14010A14" ++
  "010A18010A18010A36010A37010A3B010A3E010A49010A4F010A59010A5F010AA0010ABF010AE7010AEA" ++
  "010AF7010AFF010B36010B38010B56010B57010B73010B77010B92010B98010B9D010BA8010BB0010BFF" ++
  "010C49010C7F010CB3010CBF010CF3010CF9010D28010D2F010D3A010D3F010D66010D68010D86010D8D" ++
  "010D90010E5F010E7F010E7F010EAA010EAA010EAE010EAF010EB2010EC1010EC8010ECF010ED9010EF9" ++
  "010F28010F2F010F5A010F6F010F8A010FAF010FCC010FDF010FF7010FFF01104E01105101107601107E" ++
  "0110BD0110BD0110C30110CF0110E90110EF0110FA0110FF01113501113501114801114F01117701117F" ++
  "0111E00111E00111F50111FF01121201121201124201127F01128701128701128901128901128E01128E" ++
  "01129E01129E0112AA0112AF0112EB0112EF0112FA0112FF01130401130401130D01130E011311011312" ++
  "01132901132901133101133101133401133401133A01133A01134501134601134901134A01134E01134F" ++
  "01135101135601135801135C01136401136501136D01136F01137501137F01138A01138A01138C01138D" ++
  "01138F01138F0113B60113B60113C10113C10113C30113C40113C60113C60113CB0113CB0113D60113D6" ++
  "0113D90113E00113E30113FF01145C01145C01146201147F0114C80114CF0114DA01157F0115B60115B7" ++
  "0115DE0115FF01164501164F01165A01165F01166D01167F0116BA0116BF0116CA0116CF0116E40116FF" ++
  "01171B01171C01172C01172F0117470117FF01183C01189F0118F30118FE01190701190801190A01190B" ++
  "01191401191401191701191701193601193601193901193A01194701194F01195A01199F0119A80119A9" ++
  "0119D80119D90119E50119FF011A48011A4F011AA3011AAF011AF9011AFF011B0A011B5F011B68011BBF" ++
  "011BE2011BEF011BFA011BFF011C09011C09011C37011C37011C46011C4F011C6D011C6F011C90011C91" ++
  "011CA8011CA8011CB7011CFF011D07011D07011D0A011D0A011D37011D39011D3B011D3B011D3E011D3E" ++
  "011D48011D4F011D5A011D5F011D66011D66011D69011D69011D8F011D8F011D92011D92011D99011D9F" ++
  "011DAA011DAF011DDC011DDF011DEA011EDF011EF9011EFF011F11011F11011F3B011F3D011F5B011FAF" ++
  "011FB1011FBF011FF2011FFE01239A0123FF01246F01246F01247501247F012544012F8F012FF3012FFF" ++
  "01343001343F01345601345F0143FB0143FF0146470160FF01613A0167FF016A39016A3F016A5F016A5F" ++
  "016A6A016A6D016ABF016ABF016ACA016ACF016AEE016AEF016AF6016AFF016B46016B4F016B5A016B5A" ++
  "016B62016B62016B78016B7C016B90016D3F016D7A016E3F016E9B016E9F016EB9016EBA016ED4016EFF" ++
  "016F4B016F4E016F88016F8E016FA0016FDF016FE5016FEF016FF7016FFF018CD6018CFE018D1F018D7F" ++
  "018DF301AFEF01AFF401AFF401AFFC01AFFC01AFFF01AFFF01B12301B13101B13301B14F01B15301B154" ++
  "01B15601B16301B16801B16F01B2FC01BBFF01BC6B01BC6F01BC7D01BC7F01BC8901BC8F01BC9A01BC9B" ++
  "01BCA001CBFF01CCFD01CCFF01CEB401CEB901CED101CEDF01CEF101CEFF01CF2E01CF2F01CF4701CF4F" ++
  "01CFC401CFFF01D0F601D0FF01D12701D12801D17301D17A01D1EB01D1FF01D24601D2BF01D2D401D2DF" ++
  "01D2F401D2FF01D35701D35F01D37901D3FF01D45501D45501D49D01D49D01D4A001D4A101D4A301D4A4" ++
  "01D4A701D4A801D4AD01D4AD01D4BA01D4BA01D4BC01D4BC01D4C401D4C401D50601D50601D50B01D50C" ++
  "01D51501D51501D51D01D51D01D53A01D53A01D53F01D53F01D54501D54501D54701D54901D55101D551" ++
  "01D6A601D6A701D7CC01D7CD01DA8C01DA9A01DAA001DAA001DAB001DEFF01DF1F01DF2401DF2B01DFFF" ++
  "01E00701E00701E01901E01A01E02201E02201E02501E02501E02B01E02F01E06E01E08E01E09001E0FF" ++
  "01E12D01E12F01E13E01E13F01E14A01E14D01E15001E28F01E2AF01E2BF01E2FA01E2FE01E30001E4CF" ++
  "01E4FA01E5CF01E5FB01E5FE01E60001E6BF01E6DF01E6DF01E6F601E6FD01E70001E7DF01E7E701E7E7" ++
  "01E7EC01E7EC01E7EF01E7EF01E7FF01E7FF01E8C501E8C601E8D701E8FF01E94C01E94F01E95A01E95D" ++
  "01E96001EC7001ECB501ED0001ED3E01EDFF01EE0401EE0401EE2001EE2001EE2301EE2301EE2501EE26" ++
  "01EE2801EE2801EE3301EE3301EE3801EE3801EE3A01EE3A01EE3C01EE4101EE4301EE4601EE4801EE48" ++
  "01EE4A01EE4A01EE4C01EE4C01EE5001EE5001EE5301EE5301EE5501EE5601EE5801EE5801EE5A01EE5A" ++
  "01EE5C01EE5C01EE5E01EE5E01EE6001EE6001EE6301EE6301EE6501EE6601EE6B01EE6B01EE7301EE73" ++
  "01EE7801EE7801EE7D01EE7D01EE7F01EE7F01EE8A01EE8A01EE9C01EEA001EEA401EEA401EEAA01EEAA" ++
  "01EEBC01EEEF01EEF201EFFF01F02C01F02F01F09401F09F01F0AF01F0B001F0C001F0C001F0D001F0D0" ++
  "01F0F601F0FF01F1AE01F1E501F20301F20F01F23C01F23F01F24901F24F01F25201F25F01F26601F2FF" ++
  "01F6D901F6DB01F6ED01F6EF01F6FD01F6FF01F7DA01F7DF01F7EC01F7EF01F7F101F7FF01F80C01F80F" ++
  "01F84801F84F01F85A01F85F01F88801F88F01F8AE01F8AF01F8BC01F8BF01F8C201F8CF01F8D901F8FF" ++
  "01FA5801FA5F01FA6E01FA6F01FA7D01FA7F01FA8B01FA8D01FAC701FAC701FAC901FACC01FADD01FADE" ++
  "01FAEB01FAEE01FAF901FAFF01FB9301FB9301FBFB01FFFF02A6E002A6FF02B81E02B81F02CEAE02CEAF" ++
  "02EBE102EBEF02EE5E02F7FF02FA1E02FFFF03134B03134F03347A10FFFF"

/-- Ranges of code points that extend the grapheme before them. -/
def graphemeExtendTable : String :=
  "00030000036F0004830004890005910005BD0005BF0005BF0005C10005C20005C40005C50005C70005C7" ++
  "00061000061A00064B00065F0006700006700006D60006DC0006DF0006E40006E70006E80006EA0006ED" ++
  "00071100071100073000074A0007A60007B00007EB0007F30007FD0007FD00081600081900081B000823" ++
  "00082500082700082900082D00085900085B00089700089F0008CA0008E10008E300090200093A00093A" ++
  "00093C00093C00094100094800094D00094D0009510009570009620009630009810009810009BC0009BC" ++
  "0009BE0009BE0009C10009C40009CD0009CD0009D70009D70009E20009E30009FE0009FE000A01000A02" ++
  "000A3C000A3C000A41000A42000A47000A48000A4B000A4D000A51000A51000A70000A71000A75000A75" ++
  "000A81000A82000ABC000ABC000AC1000AC5000AC7000AC8000ACD000ACD000AE2000AE3000AFA000AFF" ++
  "000B01000B01000B3C000B3C000B3E000B3F000B41000B44000B4D000B4D000B55000B57000B62000B63" ++
  "000B82000B82000BBE000BBE000BC0000BC0000BCD000BCD000BD7000BD7000C00000C00000C04000C04" ++
  "000C3C000C3C000C3E000C40000C46000C48000C4A000C4D000C55000C56000C62000C63000C81000C81" ++
  "000CBC000CBC000CBF000CC0000CC2000CC2000CC6000CC8000CCA000CCD000CD5000CD6000CE2000CE3" ++
  "000D00000D01000D3B000D3C000D3E000D3E000D41000D44000D4D000D4D000D57000D57000D62000D63" ++
  "000D81000D81000DCA000DCA000DCF000DCF000DD2000DD4000DD6000DD6000DDF000DDF000E31000E31" ++
  "000E34000E3A000E47000E4E000EB1000EB1000EB4000EBC000EC8000ECE000F18000F19000F35000F35" ++
  "000F37000F37000F39000F39000F71000F7E000F80000F84000F86000F87000F8D000F97000F99000FBC" ++
  "000FC6000FC600102D00103000103200103700103900103A00103D00103E00105800105900105E001060" ++
  "00107100107400108200108200108500108600108D00108D00109D00109D00135D00135F001712001715" ++
  "0017320017340017520017530017720017730017B40017B50017B70017BD0017C60017C60017C90017D3" ++
  "0017DD0017DD00180B00180D00180F00180F0018850018860018A90018A9001920001922001927001928" ++
  "00193200193200193900193B001A17001A18001A1B001A1B001A56001A56001A58001A5E001A60001A60" ++
  "001A62001A62001A65001A6C001A73001A7C001A7F001A7F001AB0001ADD001AE0001AEB001B00001B03" ++
  "001B34001B3D001B42001B44001B6B001B73001B80001B81001BA2001BA5001BA8001BAD001BE6001BE6" ++
  "001BE8001BE9001BED001BED001BEF001BF3001C2C001C33001C36001C37001CD0001CD2001CD4001CE0" ++
  "001CE2001CE8001CED001CED001CF4001CF4001CF8001CF9001DC0001DFF00200C00200C0020D00020F0" ++
  "002CEF002CF1002D7F002D7F002DE0002DFF00302A00302F00309900309A00A66F00A67200A67400A67D" ++
  "00A69E00A69F00A6F000A6F100A80200A80200A80600A80600A80B00A80B00A82500A82600A82C00A82C" ++
  "00A8C400A8C500A8E000A8F100A8FF00A8FF00A92600A92D00A94700A95100A95300A95300A98000A982" ++
  "00A9B300A9B300A9B600A9B900A9BC00A9BD00A9C000A9C000A9E500A9E500AA2900AA2E00AA3100AA32" ++
  "00AA3500AA3600AA4300AA4300AA4C00AA4C00AA7C00AA7C00AAB000AAB000AAB200AAB400AAB700AAB8" ++
  "00AABE00AABF00AAC100AAC100AAEC00AAED00AAF600AAF600ABE500ABE500ABE800ABE800ABED00ABED" ++
  "00FB1E00FB1E00FE0000FE0F00FE2000FE2F0101FD0101FD0102E00102E001037601037A010A01010A03" ++
  "010A05010A06010A0C010A0F010A38010A3A010A3F010A3F010AE5010AE6010D24010D27010D69010D6D" ++
  "010EAB010EAC010EFA010EFF010F46010F50010F82010F85011001011001011038011046011070011070" ++
  "01107301107401107F0110810110B30110B60110B90110BA0110C20110C201110001110201112701112B" ++
  "01112D0111340111730111730111800111810111B60111BE0111C00111C00111C90111CC0111CF0111CF" ++
  "01122F01123101123401123701123E01123E0112410112410112DF0112DF0112E30112EA011300011301" ++
  "01133B01133C01133E01133E01134001134001134D01134D01135701135701136601136C011370011374" ++
  "0113B80113B80113BB0113C00113C20113C20113C50113C50113C70113C90113CE0113D00113D20113D2" ++
  "0113E10113E201143801143F01144201144401144601144601145E01145E0114B00114B00114B30114B8" ++
  "0114BA0114BA0114BD0114BD0114BF0114C00114C20114C30115AF0115AF0115B20115B50115BC0115BD" ++
  "0115BF0115C00115DC0115DD01163301163A01163D01163D01163F0116400116AB0116AB0116AD0116AD" ++
  "0116B00116B701171D01171D01171F01171F01172201172501172701172B01182F01183701183901183A" ++
  "01193001193001193B01193E0119430119430119D40119D70119DA0119DB0119E00119E0011A01011A0A" ++
  "011A33011A38011A3B011A3E011A47011A47011A51011A56011A59011A5B011A8A011A96011A98011A99" ++
  "011B60011B60011B62011B64011B66011B66011C30011C36011C38011C3D011C3F011C3F011C92011CA7" ++
  "011CAA011CB0011CB2011CB3011CB5011CB6011D31011D36011D3A011D3A011D3C011D3D011D3F011D45" ++
  "011D47011D47011D90011D91011D95011D95011D97011D97011EF3011EF4011F00011F01011F36011F3A" ++
  "011F40011F42011F5A011F5A01344001344001344701345501611E01612901612D01612F016AF0016AF4" ++
  "016B30016B36016F4F016F4F016F8F016F92016FE4016FE4016FF0016FF101BC9D01BC9E01CF0001CF2D" ++
  "01CF3001CF4601D16501D16901D16D01D17201D17B01D18201D18501D18B01D1AA01D1AD01D24201D244" ++
  "01DA0001DA3601DA3B01DA6C01DA7501DA7501DA8401DA8401DA9B01DA9F01DAA101DAAF01E00001E006" ++
  "01E00801E01801E01B01E02101E02301E02401E02601E02A01E08F01E08F01E13001E13601E2AE01E2AE" ++
  "01E2EC01E2EF01E4EC01E4EF01E5EE01E5EF01E6E301E6E301E6E601E6E601E6EE01E6EF01E6F501E6F5" ++
  "01E8D001E8D601E94401E94A0E00200E007F0E01000E01EF"

/-- The value of a hexadecimal digit (upper case). -/
def hexDigitValue (c : Char) : Nat :=
  if c.isDigit then c.toNat - '0'.toNat else c.toNat - 'A'.toNat + 10

/-- Reads pairs of six-digit hexadecimal bounds. -/
def decodeRanges : List Char → List (Nat × Nat)
  | a1 :: a2 :: a3 :: a4 :: a5 :: a6 :: b1 :: b2 :: b3 :: b4 :: b5 :: b6 :: rest =>
    let value (ds : List Char) := ds.foldl (fun acc d => acc * 16 + hexDigitValue d) 0
    (value [a1, a2, a3, a4, a5, a6], value [b1, b2, b3, b4, b5, b6]) :: decodeRanges rest
  | _ => []

/-- The code points that are not printable. -/
def nonPrintable : Array (Nat × Nat) := (decodeRanges nonPrintableTable.toList).toArray

/-- The code points that extend a grapheme. -/
def graphemeExtend : Array (Nat × Nat) := (decodeRanges graphemeExtendTable.toList).toArray

/-- Whether `n` lies in one of the ranges. -/
def inRanges (rs : Array (Nat × Nat)) (n : Nat) : Bool := rs.any fun (lo, hi) => lo ≤ n && n ≤ hi

/-- Whether a character is shown as itself. -/
def isPrintable (c : Char) : Bool := !inRanges nonPrintable c.toNat

/-- Whether a character extends the grapheme before it. -/
def isGraphemeExtend (c : Char) : Bool := inRanges graphemeExtend c.toNat

/-- Lowercase hexadecimal digits of `n`, without leading zeros. -/
def lowerHex (n : Nat) : String := String.ofList (Nat.toDigits 16 n)

/-- How one character of a string is shown between double quotes. -/
def escapeChar (c : Char) : String :=
  if c = '\x00' then "\\0"
  else if c = '\t' then "\\t"
  else if c = '\r' then "\\r"
  else if c = '\n' then "\\n"
  else if c = '\\' then "\\\\"
  else if c = '"' then "\\\""
  else if isGraphemeExtend c || !isPrintable c then "\\u\x7b" ++ lowerHex c.toNat ++ "\x7d"
  else c.toString

/-- A string between double quotes, escaped; see the module note. -/
def quote (s : String) : String := "\"" ++ String.join (s.toList.map escapeChar) ++ "\""

/-- A list of strings as `["a", "b"]`. -/
def quoteList (xs : List String) : String := "[" ++ ", ".intercalate (xs.map quote) ++ "]"

end DevstackConf.Text
